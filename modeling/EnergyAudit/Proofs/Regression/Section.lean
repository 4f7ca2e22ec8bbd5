import EnergyAudit.Proofs.Regression.Decision
import EnergyAudit.Proofs.Text.Lines
import EnergyAudit.Regression.Markdown

/-! # What is shown of a change

The section on a change is written from the change and the baseline, without the counts of the run.
These come out right all the same, since a change of counts is exact and so can be undone.  Status
and counts stand in the first lines of the text, whatever the names in the baseline are.  Every line
begins with words of its own, by which it is known whether a warning is there.  That takes names
which are single lines: a branch with a line feed in it can put any line into the section. -/

namespace EnergyAudit

namespace Text

/-- Whether the line begins with the text. -/
def begins (start line : String) : Bool := start.toList.isPrefixOf line.toList

/-- The lines that begin with the text. -/
def linesWith (start : String) (lines : List String) : List String := lines.filter (begins start)

/-- Whether no line can begin with both texts. -/
def apart (first second : String) : Bool := !begins first second && !begins second first

/-- Whether a line that begins with the text is not empty and begins with none of the others. -/
def standsOut (start : String) (starts : List String) : Bool :=
  !begins start "" && starts.all (apart start)

/-- Whether every line is empty or begins with one of the texts. -/
def AllBegin (starts lines : List String) : Prop :=
  ∀ line ∈ lines, line = "" ∨ ∃ start ∈ starts, begins start line = true

variable {start other line : String} {starts lines : List String}

theorem begins_append (known : begins start line = true) (rest : String) :
    begins start (line ++ rest) = true := by
  rw [begins, List.isPrefixOf_iff_prefix] at known ⊢
  rw [String.toList_append]
  exact known.trans (List.prefix_append ..)

theorem not_begins_of_apart (different : apart start other = true)
    (known : begins other line = true) : begins start line = false := by
  simp only [apart, begins, Bool.and_eq_true, Bool.not_eq_true', ← Bool.not_eq_true,
    List.isPrefixOf_iff_prefix] at different known ⊢
  intro both
  rcases List.prefix_or_prefix_of_prefix both known with first | second
  · exact different.1 first
  · exact different.2 second

theorem linesWith_append (start : String) (lines others : List String) :
    linesWith start (lines ++ others) = linesWith start lines ++ linesWith start others :=
  List.filter_append ..

theorem linesWith_singleton (known : begins start line = true) : linesWith start [line] = [line] :=
  List.filter_cons_of_pos known

theorem linesWith_of_allBegin (all : AllBegin starts lines)
    (different : standsOut start starts = true) : linesWith start lines = [] := by
  simp only [standsOut, Bool.and_eq_true, Bool.not_eq_true'] at different
  refine List.filter_eq_nil_iff.mpr fun line member => ?_
  rw [Bool.not_eq_true]
  rcases all line member with rfl | ⟨other, listed, known⟩
  · exact different.1
  · exact not_begins_of_apart (List.all_eq_true.mp different.2 other listed) known

theorem AllBegin.cons (line_begins : line = "" ∨ ∃ start ∈ starts, begins start line = true)
    (all : AllBegin starts lines) : AllBegin starts (line :: lines) :=
  List.forall_mem_cons.mpr ⟨line_begins, all⟩

theorem allBegin_nil (starts : List String) : AllBegin starts [] := nofun

theorem allBegin_singleton (known : begins start line = true) : AllBegin [start] [line] :=
  .cons (.inr ⟨start, List.mem_singleton_self start, known⟩) (allBegin_nil _)

/-- An empty line, and a line that begins with one of the texts. -/
theorem allBegin_gap (listed : start ∈ starts) (known : begins start line = true) :
    AllBegin starts ["", line] :=
  .cons (.inl rfl) (.cons (.inr ⟨start, listed, known⟩) (allBegin_nil _))

theorem linesWith_gap (filled : standsOut start [] = true) (known : begins start line = true) :
    linesWith start ["", line] = [line] := by
  have gap : AllBegin [] [""] := .cons (.inl rfl) (allBegin_nil _)
  rw [← List.singleton_append, linesWith_append, linesWith_of_allBegin gap filled,
    linesWith_singleton known, List.nil_append]

end Text

/-! ## Figures and words in a line -/

namespace Decimal

open Text

theorem isLine_withPoint {digits : String} (single : IsLine digits) (places : Nat) :
    IsLine (withPoint digits places) := by
  have padded : '\n' ∉ List.replicate (places + 1 - digits.toList.length) '0' ++ digits.toList := by
    rw [List.mem_append, not_or]
    exact ⟨fun member => absurd (List.eq_of_mem_replicate member) (by decide), single⟩
  unfold withPoint
  dsimp only
  split
  · exact lacks_ofList_iff.mpr fun member => padded (List.mem_of_mem_take member)
  · refine lacks_ofList_iff.mpr ?_
    rw [List.mem_append, List.mem_cons]
    rintro (member | point | member)
    · exact padded (List.mem_of_mem_take member)
    · exact absurd point (by decide)
    · exact padded (List.mem_of_mem_drop member)

theorem isLine_minus (negative : Bool) : IsLine (minus negative) := by
  cases negative <;> exact lacks_ofList rfl

theorem isLine_fixed (places : Nat) (x : Float) : IsLine (fixed places x) := by
  unfold fixed
  split
  · exact lacks_ofList rfl
  · exact .append (isLine_minus _) (lacks_ofList rfl)
  · exact .append (isLine_minus _) (isLine_withPoint (isLine_toString_nat _) places)

theorem isLine_fixedSigned (places : Nat) (x : Float) : IsLine (fixedSigned places x) := by
  unfold fixedSigned
  split
  · exact lacks_ofList rfl
  · refine .append ?_ (lacks_ofList rfl)
    split <;> exact lacks_ofList rfl
  · refine .append ?_ (isLine_fixed places x)
    split <;> exact lacks_ofList rfl

end Decimal

namespace Regression

open Text

theorem isLine_counted {start rest : String} (first : IsLine start) (last : IsLine rest)
    (count : Int64) : IsLine (start ++ signedText count ++ rest) :=
  (first.append (isLine_toString_int _)).append last

theorem isLine_measured {start : String} (first : IsLine start) (percent threshold : Float) :
    IsLine (start ++ Decimal.fixed 1 percent ++ "% (threshold: " ++ Decimal.fixed 1 threshold
      ++ "%).") :=
  have found := first.append (Decimal.isLine_fixed 1 percent)
  ((found.append (lacks_ofList rfl)).append (Decimal.isLine_fixed 1 threshold)).append
    (lacks_ofList rfl)

theorem Verdict.isLine_reason (verdict : Verdict) : IsLine verdict.reason := by
  cases verdict with
  | newCritical count => exact isLine_counted (lacks_ofList rfl) (lacks_ofList rfl) count
  | energyRegressed percent threshold => exact isLine_measured (lacks_ofList rfl) percent threshold
  | throughputDropped percent threshold =>
      exact isLine_measured (lacks_ofList rfl) percent threshold
  | newIssues count => exact isLine_counted (lacks_ofList rfl) (lacks_ofList rfl) count
  | fixedIssues count => exact isLine_counted (lacks_ofList rfl) (lacks_ofList rfl) count
  | unchanged => exact lacks_ofList rfl

end Regression

/-! ## Counts before and after -/

/-- A number in digits, with a plus sign if it is positive. -/
def signedNumber (n : Int) : String := if 0 < n then "+" ++ toString n else toString n

/-- The row on a count that has changed. -/
def countRow (title : String) (before after : Nat) : String :=
  "| " ++ title ++ " | " ++ toString before ++ " | " ++ toString after ++ " | "
    ++ signedNumber ((after : Int) - before) ++ " |"

/-- The count of the run is found again from that of the baseline and an exact change. -/
theorem Count.signedText_changed? {before after : UInt64} {change : Int64}
    (old : before.toNat < signedBound) (new : after.toNat < signedBound)
    (exact : change.toInt = (after.toNat : Int) - before.toNat) :
    (changed? before change).map Regression.signedText = some (toString after.toNat) := by
  have sum : before.toInt64.toInt + change.toInt = (after.toNat : Int) := by
    rw [toInt_toInt64 old, exact]
    omega
  rw [signedBound_eq] at new
  obtain ⟨x, known⟩ := exists_signed? (n := (after.toNat : Int))
    (by rw [signedBound_eq]; omega) (by rw [signedBound_eq]; omega)
  rw [changed?, sum, known, Option.map_some, Regression.signedText, toInt_of_signed? known]
  rfl

namespace RelativeChange

variable {change : RelativeChange} {baseline : Baseline}

theorem withSign_eq (n : Int64) : withSign n = signedNumber n.toInt := by
  unfold withSign signedNumber
  exact if_congr Int64.lt_iff_toInt_lt rfl rfl

theorem countRow?_eq (title : String) {before after : UInt64} {delta : Int64}
    (old : before.toNat < Count.signedBound) (new : after.toNat < Count.signedBound)
    (exact : delta.toInt = (after.toNat : Int) - before.toNat) :
    countRow? title before delta = some (countRow title before.toNat after.toNat) := by
  have shown := Count.signedText_changed? old new exact
  obtain ⟨x, known, text⟩ := Option.map_eq_some_iff.mp shown
  rw [countRow?, known, Option.map_some, text, withSign_eq, exact]
  rfl

/-! ## The lines of the section -/

open Text

def statusLine (change : RelativeChange) : String :=
  "**Status: " ++ (if change.passed then "✅ PASSED" else "❌ FAILED") ++ "**"

/-- The reason, and the head of the table. -/
def reasonLines (change : RelativeChange) : List String :=
  ["", "> " ++ change.reason, "", "| Metric | Baseline | Current | Change |",
    "|--------|----------|---------|--------|"]

/-- The lines on the verdict and on the counts, which come first. -/
def openingLines (baseline : Baseline) (summary : RunSummary) (change : RelativeChange) :
    List String :=
  ["### 📈 Relative Change (vs Baseline)",
   "",
   "**Status: " ++ (if change.passed = true then "✅ PASSED" else "❌ FAILED") ++ "**",
   "",
   "> " ++ change.reason,
   "",
   "| Metric | Baseline | Current | Change |",
   "|--------|----------|---------|--------|",
   countRow "Issues" baseline.totalIssues.toNat summary.totalIssues.toNat,
   countRow "Critical" baseline.criticalCount.toNat summary.criticalCount.toNat]

/-- The lines below those on the counts. -/
def laterLines (change : RelativeChange) (baseline : Baseline) : List String :=
  change.energyRows baseline ++ change.throughputRows baseline
    ++ change.confidenceLines baseline ++ change.gapLines ++ originLines baseline

theorem markdown?_eq {summary : RunSummary} (old : baseline.Moderate) (new : summary.Moderate)
    (exact : Regression.CountsExactly baseline summary change)
    (known : change.hasBaseline = true) :
    change.markdown? (some baseline) =
      some (unlines (openingLines baseline summary change ++ change.laterLines baseline)) := by
  have issues := countRow?_eq "Issues" old.1 new.1 exact.issues
  have critical := countRow?_eq "Critical" old.2.1 new.2.1 exact.critical
  simp only [markdown?, bodyLines?, known, comparisonLines?, issues, critical]
  rfl

theorem begins_countRow (title : String) (before after : Nat) :
    begins ("| " ++ title ++ " |") (countRow title before after) = true := by
  have start : countRow title before after = "| " ++ title ++ " |" ++ (" " ++ toString before
      ++ " | " ++ toString after ++ " | " ++ signedNumber ((after : Int) - before) ++ " |") := by
    simp only [countRow, String.append_assoc]
    rfl
  rw [start]
  exact begins_append (by simp [begins]) _

/-! ## How the lines begin -/

theorem allBegin_heading : AllBegin ["### "] ["### 📈 Relative Change (vs Baseline)", ""] :=
  .cons (.inr ⟨_, List.mem_singleton_self _, by simp [begins]⟩) (.cons (.inl rfl) (allBegin_nil _))

theorem begins_statusLine (change : RelativeChange) :
    begins "**Status:" change.statusLine = true :=
  begins_append (begins_append (by simp [begins]) _) _

theorem allBegin_reasonLines (change : RelativeChange) :
    AllBegin ["> ", "| Metric ", "|-"] change.reasonLines := by
  have reason : begins "> " ("> " ++ change.reason) = true := begins_append (by simp [begins]) _
  refine .cons (.inl rfl) (.cons (.inr ⟨"> ", by simp, reason⟩) (.cons (.inl rfl) ?_))
  exact .cons (.inr ⟨"| Metric ", by simp, by simp [begins]⟩)
    (.cons (.inr ⟨"|-", by simp, by simp [begins]⟩) (allBegin_nil _))

theorem allBegin_energyRows (change : RelativeChange) (baseline : Baseline) :
    AllBegin ["| Energy/TFLOP "] (change.energyRows baseline) := by
  unfold energyRows
  split
  · refine allBegin_singleton ?_
    simp only [String.append_assoc]
    exact begins_append (by simp [begins]) _
  · exact allBegin_nil _

theorem allBegin_throughputRows (change : RelativeChange) (baseline : Baseline) :
    AllBegin ["| Throughput "] (change.throughputRows baseline) := by
  unfold throughputRows
  split
  · refine allBegin_singleton ?_
    simp only [String.append_assoc]
    exact begins_append (by simp [begins]) _
  · exact allBegin_nil _

theorem allBegin_originLines (baseline : Baseline) :
    AllBegin ["*Baseline "] (originLines baseline) := by
  refine .cons (.inl rfl) (.cons (.inr ⟨_, List.mem_singleton_self _, ?_⟩)
    (.cons (.inl rfl) (allBegin_nil _)))
  simp only [String.append_assoc]
  exact begins_append (by simp [begins]) _

/-! ## The warnings -/

/-- The warning about other hardware. -/
def hardwareWarning (baseline : Baseline) : String :=
  "⚠️ **Hardware changed** since baseline (was `"
    ++ (if baseline.gpuName = "" then "unknown" else baseline.gpuName) ++ "`, fingerprint `"
    ++ (if baseline.hardwareFingerprint = "" then "unknown" else baseline.hardwareFingerprint)
    ++ "`). Comparison may be affected."

def methodNote : String :=
  "⚠️ Baseline was calibrated with a different method. Energy figures are approximate."

def gapWarning (change : RelativeChange) : String :=
  "⚠️ Throughput dropped by " ++ Decimal.fixed 1 change.benchmarkChangePct
    ++ "% but no energy data is available to gate on."

/-- The words that only the warning about other hardware begins with. -/
def hardwareStart : String := "⚠️ **Hardware"

def methodStart : String := "⚠️ Baseline"

def gapStart : String := "⚠️ Throughput"

theorem begins_hardwareWarning (baseline : Baseline) :
    begins hardwareStart (hardwareWarning baseline) = true := by
  unfold hardwareWarning
  simp only [String.append_assoc]
  exact begins_append (by simp [begins, hardwareStart]) _

theorem begins_methodNote : begins methodStart methodNote = true := by
  have note : methodNote = methodStart ++
      " was calibrated with a different method. Energy figures are approximate." := rfl
  rw [note]
  exact begins_append (by simp [begins]) _

theorem begins_gapWarning (change : RelativeChange) :
    begins gapStart change.gapWarning = true := by
  unfold gapWarning
  simp only [String.append_assoc]
  exact begins_append (by simp [begins, gapStart]) _

theorem confidenceLines_eq (change : RelativeChange) (baseline : Baseline) :
    change.confidenceLines baseline =
      if change.sameHardware = false then ["", hardwareWarning baseline]
      else if change.lowConfidence = true then ["", methodNote] else [] := by
  unfold confidenceLines hardwareWarning orUnknown
  cases change.sameHardware with
  | false => simp
  | true => rfl

theorem allBegin_confidenceLines (change : RelativeChange) (baseline : Baseline) :
    AllBegin [hardwareStart, methodStart] (change.confidenceLines baseline) := by
  rw [confidenceLines_eq]
  split
  · exact allBegin_gap List.mem_cons_self (begins_hardwareWarning baseline)
  · split
    · exact allBegin_gap (.tail _ List.mem_cons_self) begins_methodNote
    · exact allBegin_nil _

theorem allBegin_gapLines (change : RelativeChange) : AllBegin [gapStart] change.gapLines := by
  unfold gapLines
  split
  · exact allBegin_gap List.mem_cons_self (begins_gapWarning change)
  · exact allBegin_nil _

theorem linesWith_hardwareStart (change : RelativeChange) (baseline : Baseline) :
    linesWith hardwareStart (change.confidenceLines baseline) =
      if change.sameHardware = false then [hardwareWarning baseline] else [] := by
  have method : AllBegin [methodStart] ["", methodNote] :=
    allBegin_gap List.mem_cons_self begins_methodNote
  rw [confidenceLines_eq]
  split
  · exact linesWith_gap (by simp [standsOut, begins, hardwareStart])
      (begins_hardwareWarning baseline)
  · split
    · exact linesWith_of_allBegin method
        (by simp [standsOut, apart, begins, hardwareStart, methodStart, List.isPrefixOf])
    · rfl

theorem linesWith_methodStart (change : RelativeChange) (baseline : Baseline) :
    linesWith methodStart (change.confidenceLines baseline) =
      if change.sameHardware = true ∧ change.lowConfidence = true then [methodNote] else [] := by
  have other : AllBegin [hardwareStart] ["", hardwareWarning baseline] :=
    allBegin_gap List.mem_cons_self (begins_hardwareWarning baseline)
  rw [confidenceLines_eq]
  cases change.sameHardware with
  | false =>
      exact linesWith_of_allBegin other
        (by simp [standsOut, apart, begins, hardwareStart, methodStart, List.isPrefixOf])
  | true =>
      cases change.lowConfidence with
      | false => rfl
      | true => exact linesWith_gap (by simp [standsOut, begins, methodStart]) begins_methodNote

theorem linesWith_gapStart (change : RelativeChange) :
    linesWith gapStart change.gapLines =
      if change.throughputGap = true then [change.gapWarning] else [] := by
  unfold gapLines
  split
  · exact linesWith_gap (by simp [standsOut, begins, gapStart]) (begins_gapWarning change)
  · rfl

/-! ## Single lines -/

/-- The names that are shown of the baseline are single lines.  The commit is cut to seven
characters, and hardware is named only if it has changed. -/
structure NamedInLines (baseline : Baseline) (change : RelativeChange) : Prop where
  commit : IsLine (String.ofList (baseline.commitSha.toList.take 7))
  branch : IsLine baseline.branch
  timestamp : IsLine baseline.timestamp
  gpuName : change.sameHardware = false → IsLine baseline.gpuName
  fingerprint : change.sameHardware = false → IsLine baseline.hardwareFingerprint

theorem isLine_signedNumber (n : Int) : IsLine (signedNumber n) := by
  unfold signedNumber
  split
  · exact .append (lacks_ofList rfl) (isLine_toString_int n)
  · exact isLine_toString_int n

theorem isLine_countRow {title : String} (single : IsLine title) (before after : Nat) :
    IsLine (countRow title before after) := by
  simp only [countRow, lacks_append]
  exact ⟨⟨⟨⟨⟨⟨⟨⟨lacks_ofList rfl, single⟩, lacks_ofList rfl⟩, isLine_toString_nat before⟩,
    lacks_ofList rfl⟩, isLine_toString_nat after⟩, lacks_ofList rfl⟩,
      isLine_signedNumber _⟩, lacks_ofList rfl⟩

theorem isLine_of_mem_openingLines {summary : RunSummary} (reason : IsLine change.reason) :
    ∀ line ∈ openingLines baseline summary change, IsLine line := by
  have empty : IsLine "" := lacks_ofList rfl
  have status : IsLine change.statusLine := by
    refine .append (.append (lacks_ofList rfl) ?_) (lacks_ofList rfl)
    cases change.passed <;> exact lacks_ofList rfl
  simp only [openingLines, List.forall_mem_cons]
  exact ⟨lacks_ofList rfl, empty, status, empty, .append (lacks_ofList rfl) reason, empty,
    lacks_ofList rfl, lacks_ofList rfl, isLine_countRow (lacks_ofList rfl) _ _,
    isLine_countRow (lacks_ofList rfl) _ _, List.forall_mem_nil _⟩

theorem isLine_of_mem_energyRows :
    ∀ line ∈ change.energyRows baseline, IsLine line := by
  unfold energyRows
  split
  · rw [List.forall_mem_singleton]
    simp only [lacks_append]
    refine ⟨⟨⟨⟨⟨⟨⟨⟨lacks_ofList rfl, Decimal.isLine_fixed 1 _⟩, lacks_ofList rfl⟩,
      Decimal.isLine_fixed 1 _⟩, lacks_ofList rfl⟩, ?_⟩, lacks_ofList rfl⟩,
        Decimal.isLine_fixedSigned 1 _⟩, lacks_ofList rfl⟩
    split <;> exact lacks_ofList rfl
  · exact List.forall_mem_nil _

theorem isLine_of_mem_throughputRows :
    ∀ line ∈ change.throughputRows baseline, IsLine line := by
  unfold throughputRows
  split
  · rw [List.forall_mem_singleton]
    simp only [lacks_append]
    exact ⟨⟨⟨⟨lacks_ofList rfl, Decimal.isLine_fixed 1 _⟩, lacks_ofList rfl⟩,
      Decimal.isLine_fixedSigned 1 _⟩, lacks_ofList rfl⟩
  · exact List.forall_mem_nil _

theorem isLine_orUnknown {name : String} (single : IsLine name) : IsLine (orUnknown name) := by
  unfold orUnknown
  split
  · exact lacks_ofList rfl
  · exact single

namespace NamedInLines

theorem isLine_of_mem_confidenceLines (named : NamedInLines baseline change) :
    ∀ line ∈ change.confidenceLines baseline, IsLine line := by
  unfold confidenceLines
  split
  · rename_i changed
    have other : change.sameHardware = false := by simpa using changed
    simp only [List.forall_mem_cons, lacks_append]
    exact ⟨lacks_ofList rfl, ⟨⟨⟨⟨lacks_ofList rfl, isLine_orUnknown (named.gpuName other)⟩,
      lacks_ofList rfl⟩, isLine_orUnknown (named.fingerprint other)⟩, lacks_ofList rfl⟩,
        List.forall_mem_nil _⟩
  · split
    · rw [List.forall_mem_cons, List.forall_mem_singleton]
      exact ⟨lacks_ofList rfl, lacks_ofList rfl⟩
    · exact List.forall_mem_nil _

theorem isLine_of_mem_originLines (named : NamedInLines baseline change) :
    ∀ line ∈ originLines baseline, IsLine line := by
  have empty : IsLine "" := lacks_ofList rfl
  simp only [originLines, List.forall_mem_cons, lacks_append]
  exact ⟨empty, ⟨⟨⟨⟨⟨⟨lacks_ofList rfl, isLine_orUnknown named.commit⟩, lacks_ofList rfl⟩,
    isLine_orUnknown named.branch⟩, lacks_ofList rfl⟩, isLine_orUnknown named.timestamp⟩,
      lacks_ofList rfl⟩, empty, List.forall_mem_nil _⟩

end NamedInLines

theorem isLine_of_mem_gapLines : ∀ line ∈ change.gapLines, IsLine line := by
  unfold gapLines
  split
  · simp only [List.forall_mem_cons, lacks_append]
    exact ⟨lacks_ofList rfl, ⟨⟨lacks_ofList rfl, Decimal.isLine_fixed 1 _⟩, lacks_ofList rfl⟩,
      List.forall_mem_nil _⟩
  · exact List.forall_mem_nil _

theorem NamedInLines.isLine_of_mem_laterLines (named : NamedInLines baseline change) :
    ∀ line ∈ change.laterLines baseline, IsLine line := by
  simp only [laterLines, List.forall_mem_append]
  exact ⟨⟨⟨⟨isLine_of_mem_energyRows, isLine_of_mem_throughputRows⟩,
    named.isLine_of_mem_confidenceLines⟩, isLine_of_mem_gapLines⟩,
      named.isLine_of_mem_originLines⟩

/-! ## What the lines say -/

/-- What the lines of the section say of a change that was found between a baseline and a run. -/
structure TellsOf (baseline : Baseline) (summary : RunSummary) (change : RelativeChange)
    (lines : List String) : Prop where
  status : linesWith "**Status:" lines =
    [if change.passed = true then "**Status: ✅ PASSED**" else "**Status: ❌ FAILED**"]
  issues : linesWith "| Issues |" lines =
    [countRow "Issues" baseline.totalIssues.toNat summary.totalIssues.toNat]
  critical : linesWith "| Critical |" lines =
    [countRow "Critical" baseline.criticalCount.toNat summary.criticalCount.toNat]
  hardware : linesWith hardwareStart lines =
    if change.sameHardware = false then [hardwareWarning baseline] else []
  method : linesWith methodStart lines =
    if change.sameHardware = true ∧ change.lowConfidence = true then [methodNote] else []
  gap : linesWith gapStart lines =
    if change.throughputGap = true then [change.gapWarning] else []

theorem tellsOf_lines (baseline : Baseline) (summary : RunSummary) (change : RelativeChange) :
    TellsOf baseline summary change
      (openingLines baseline summary change ++ change.laterLines baseline ++ [""]) := by
  have blocks : openingLines baseline summary change =
      ["### 📈 Relative Change (vs Baseline)", ""] ++ [change.statusLine] ++ change.reasonLines
        ++ [countRow "Issues" baseline.totalIssues.toNat summary.totalIssues.toNat]
        ++ [countRow "Critical" baseline.criticalCount.toNat summary.criticalCount.toNat] := rfl
  have status := allBegin_singleton (begins_statusLine change)
  have issuesRow : begins "| Issues |" (countRow "Issues" _ _) = true :=
    begins_countRow "Issues" baseline.totalIssues.toNat summary.totalIssues.toNat
  have criticalRow : begins "| Critical |" (countRow "Critical" _ _) = true :=
    begins_countRow "Critical" baseline.criticalCount.toNat summary.criticalCount.toNat
  have last : AllBegin [] [""] := .cons (.inl rfl) (allBegin_nil _)
  rw [blocks, laterLines]
  constructor
  all_goals
    simp (disch := simp [standsOut, apart, begins, List.isPrefixOf, hardwareStart, methodStart,
      gapStart]) only [linesWith_append, linesWith_of_allBegin allBegin_heading,
      linesWith_of_allBegin status, linesWith_of_allBegin (allBegin_reasonLines change),
      linesWith_of_allBegin (allBegin_singleton issuesRow),
      linesWith_of_allBegin (allBegin_singleton criticalRow),
      linesWith_of_allBegin (allBegin_energyRows change baseline),
      linesWith_of_allBegin (allBegin_throughputRows change baseline),
      linesWith_of_allBegin (allBegin_confidenceLines change baseline),
      linesWith_of_allBegin (allBegin_gapLines change),
      linesWith_of_allBegin (allBegin_originLines baseline), linesWith_of_allBegin last,
      List.append_nil, List.nil_append]
  · rw [linesWith_singleton (begins_statusLine change), statusLine]
    cases change.passed <;> rfl
  · exact linesWith_singleton issuesRow
  · exact linesWith_singleton criticalRow
  · exact linesWith_hardwareStart change baseline
  · exact linesWith_methodStart change baseline
  · exact linesWith_gapStart change

end RelativeChange

namespace Regression

open BaselineStore RelativeChange Text

/-- Where there is a baseline, the section begins with the status, the reason and the counts: what
each was, what it is now and how much that is more or less.  If the names in the baseline are single
lines, there is no other line on any of these, and the section has the warnings that the comparison
gives reason for, and no others.  Where there is no baseline, it gives the reason alone. -/
theorem section_of_compareWithStore (store : BaselineStore) (w : Workspace) (run : CurrentRun)
    (policy : RegressionPolicy) :
    (∀ baseline, store.load? w run.fingerprint = some baseline →
      baseline.Moderate → run.summary.Moderate →
        ∃ change text,
          compareWithStore? store w run policy = some ⟨change, some baseline⟩ ∧
          change.markdown? (some baseline) = some text ∧
          openingLines baseline run.summary change <+: feedLines text ∧
          (NamedInLines baseline change →
            TellsOf baseline run.summary change (feedLines text))) ∧
    (store.load? w run.fingerprint = none →
      ∃ change, compareWithStore? store w run policy = some ⟨change, none⟩ ∧
        change.markdown? none =
          some ("### 📈 Relative Change (vs Baseline)\n\n> " ++ change.reason ++ "\n\n")) := by
  constructor
  · intro baseline loaded old new
    obtain ⟨issues, critical, warning, _, verdict, _, _, compared, exact⟩ :=
      (sameSides_of_moderate old new).exists_reaches policy
    have opening : ∀ line ∈ openingLines baseline run.summary
        (changeOf baseline run policy issues critical warning verdict), IsLine line :=
      isLine_of_mem_openingLines verdict.isLine_reason
    refine ⟨_, _, ?_, markdown?_eq old new exact rfl, ?_, ?_⟩
    · rw [compareWithStore?_of_load? loaded, compared, Option.map_some]
    · rw [feedLines_unlines, List.flatMap_append, flatMap_feedLines opening, List.append_assoc]
      exact List.prefix_append ..
    · intro named
      rw [feedLines_unlines, flatMap_feedLines]
      · exact tellsOf_lines baseline run.summary _
      · rw [List.forall_mem_append]
        exact ⟨opening, named.isLine_of_mem_laterLines⟩
  · intro missing
    refine ⟨withoutBaseline, compareWithStore?_of_none missing policy, ?_⟩
    rfl

/-- A baseline of other hardware than the run is on. -/
def elsewhere : Baseline where
  timestamp := "2025-01-31T12:00:00Z"
  commitSha := "0123456789abcdef"
  branch := "main"
  gpuName := "NVIDIA L4"
  hardwareFingerprint := "a"
  totalIssues := 3
  criticalCount := 1
  energyPerTflopJoules := 4.0

/-- A run with more findings than that, which takes more energy. -/
def costlier : CurrentRun where
  fingerprint := "b"
  summary := ⟨5, 0, 4⟩
  calibration := ⟨100.0, 440.0, 4.5, 5.0, .computeBenchmark⟩

theorem section_of_plain_save :
    (∃ change, compareWithStore? plain ⟨.empty, []⟩ costlier {} = some ⟨change, none⟩ ∧
      change.markdown? none =
        some ("### 📈 Relative Change (vs Baseline)\n\n> " ++ change.reason ++ "\n\n")) ∧
    ∃ w' change text,
      plain.Saves ⟨.empty, []⟩ [elsewhere] w' ∧
      compareWithStore? plain w' costlier {} = some ⟨change, some elsewhere⟩ ∧
      change.markdown? (some elsewhere) = some text ∧
      linesWith "**Status:" (feedLines text) = ["**Status: ❌ FAILED**"] ∧
      linesWith "| Issues |" (feedLines text) = ["| Issues | 3 | 5 | +2 |"] ∧
      linesWith "| Critical |" (feedLines text) = ["| Critical | 1 | 0 | -1 |"] ∧
      linesWith hardwareStart (feedLines text) = [hardwareWarning elsewhere] ∧
      linesWith methodStart (feedLines text) = [] := by
  obtain ⟨w', saves, loads⟩ := exists_plain_load (by decide +kernel : elsewhere.ReadsBack)
  have loaded : plain.load? w' "b" = some elsewhere := loads "b"
  obtain ⟨change, text, compared, shown, _, tells⟩ :=
    (section_of_compareWithStore plain w' costlier {}).1 _ loaded
      ⟨by decide, by decide, by decide⟩ ⟨by decide, by decide, by decide⟩
  have named : NamedInLines elsewhere change :=
    ⟨by decide +kernel, by decide +kernel, by decide +kernel, fun _ => by decide +kernel,
      fun _ => by decide +kernel⟩
  have told := tells named
  have found := compared
  rw [compareWithStore?_of_load? loaded] at found
  obtain ⟨same, known, made⟩ := Option.map_eq_some_iff.mp found
  obtain rfl : same = change := congrArg Comparison.change made
  have other : same.sameHardware = false := (flags_of_compareWith? known).2.1
  have failed : same.passed = false := by
    obtain ⟨_, _, _, verdict, _, _, _, decided, rfl⟩ := compareWith?_eq_some.mp known
    have dearer : (percentages elsewhere costlier.calibration).1 > 5.0 := by decide
    exact (reaches_of_verdict? decided).passed_eq_false_iff.mpr (.inr (.inl dearer))
  have status := told.status
  have hardware := told.hardware
  have method := told.method
  rw [failed] at status
  rw [other] at hardware method
  refine ⟨(section_of_compareWithStore plain ⟨.empty, []⟩ costlier {}).2 (by rfl), ?_⟩
  exact ⟨w', same, text, saves, compared, shown, status, told.issues.trans (by decide +kernel),
    told.critical.trans (by decide +kernel), hardware, method⟩

/-- A baseline from a branch whose name has a warning for a line. -/
def warningInBranch : Baseline where
  branch := "x\n⚠️ **Hardware changed**\n"
  hardwareFingerprint := "a"

/-- The branch of a baseline can put a warning into the section for which there is no reason. -/
theorem warning_of_branch :
    ∃ w' change text,
      plain.Saves ⟨.empty, []⟩ [warningInBranch] w' ∧
      compareWithStore? plain w' ⟨"a", ⟨0, 0, 0⟩, .empty .none⟩ {} =
        some ⟨change, some warningInBranch⟩ ∧
      change.markdown? (some warningInBranch) = some text ∧
      change.sameHardware = true ∧ linesWith hardwareStart (feedLines text) ≠ [] := by
  obtain ⟨w', saves, loads⟩ := exists_plain_load (by decide +kernel : warningInBranch.ReadsBack)
  have loaded : plain.load? w' "a" = some warningInBranch := loads "a"
  have old : warningInBranch.Moderate := ⟨by decide, by decide, by decide⟩
  have new : (⟨0, 0, 0⟩ : RunSummary).Moderate := ⟨by decide, by decide, by decide⟩
  obtain ⟨_, _, _, _, _, _, _, compared, exact⟩ := @SameSides.exists_reaches warningInBranch
    ⟨"a", ⟨0, 0, 0⟩, .empty .none⟩ (sameSides_of_moderate old new) {}
  refine ⟨w', _, _, saves, ?_, markdown?_eq old new exact rfl, by rfl, ?_⟩
  · rw [compareWithStore?_of_load? loaded, compared, Option.map_some]
  · have origin : "⚠️ **Hardware changed**" ∈ (originLines warningInBranch).flatMap feedLines := by
      decide +kernel
    have starts : begins hardwareStart "⚠️ **Hardware changed**" = true := by
      simp [begins, hardwareStart]
    refine List.ne_nil_of_mem (List.mem_filter.mpr ⟨?_, starts⟩)
    rw [feedLines_unlines, laterLines, ← List.append_assoc, List.flatMap_append]
    exact List.mem_append_left _ (List.mem_append_right _ origin)

end Regression

end EnergyAudit
