import EnergyAudit.Probe.Output
import EnergyAudit.Proofs.Double
import EnergyAudit.Proofs.Double.Exact
import EnergyAudit.Proofs.Json.Numeral
import EnergyAudit.Proofs.Text.LineEnds
import EnergyAudit.Proofs.Text.Padding

/-! # Listings of devices

A listing has a line for each device, with the fields of the device between commas.  Whatever blanks
stand around the fields, whatever blank lines stand between the lines and however the lines end, the
first device is read back and the devices are counted. -/

namespace EnergyAudit.Probe

open Text (Padded IsTrimmed isBlank isBlankLine trim splitOn)

/-! ## Amounts -/

/-- A text for a finite number that is not negative. -/
def IsAmount (field : List Char) : Prop :=
  ∃ x, Decimal.read? field = some x ∧ x.isFinite = true ∧ 0.0 ≤ x

theorem amount?_eq_none_iff {field : List Char} : amount? field = none ↔ ¬ IsAmount field := by
  have zero : (0.0 : Float).isFinite = true := rfl
  rw [amount?, Option.filter_eq_none_iff, IsAmount]
  constructor
  · rintro none ⟨x, read, finite, nonnegative⟩
    have refused := none x read
    have notLess : ¬ x < 0.0 := by
      rw [Double.lt_iff_not_le finite zero]
      exact not_not_intro nonnegative
    simp [finite, notLess] at refused
  · intro none x read
    simp only [Bool.and_eq_true, Bool.not_eq_true', decide_eq_false_iff_not]
    rintro ⟨finite, notLess⟩
    rw [Double.lt_iff_not_le finite zero, not_not] at notLess
    exact none ⟨x, read, finite, notLess⟩

theorem toLower_of_isDigit {c : Char} (digit : c.isDigit = true) : c.toLower = c := by
  obtain ⟨low, high⟩ := Json.toNat_of_isDigit digit
  have same : ∀ n ≤ 57, 48 ≤ n → (Char.ofNat n).toLower = Char.ofNat n := by decide
  simpa using same c.toNat high low

/-- Digits are none of the words that stand for a number. -/
theorem ofList_digits_ne {digits : List Char} (all : ∀ c ∈ digits, c.isDigit = true)
    {word : String} (letters : (word.toList.all Char.isDigit) = false) :
    String.ofList (digits.map Char.toLower) ≠ word := by
  rintro rfl
  rw [String.toList_ofList, List.map_congr_left fun c member => toLower_of_isDigit (all c member),
    List.map_id', List.all_eq_true.mpr all] at letters
  contradiction

theorem readUnsigned?_digits {digits : List Char} (nonempty : digits ≠ [])
    (all : ∀ c ∈ digits, c.isDigit = true) :
    Decimal.readUnsigned? digits = some (Decimal.nearestDouble (Decimal.natOfDigits digits) 0) := by
  obtain ⟨taken, dropped⟩ := @Json.span_digits digits [] all rfl
  rw [List.append_nil] at taken dropped
  simp [Decimal.readUnsigned?, taken, dropped, nonempty, Decimal.readExponent?]

theorem read?_digits {digits : List Char} (nonempty : digits ≠ [])
    (all : ∀ c ∈ digits, c.isDigit = true) :
    Decimal.read? digits = some (Decimal.nearestDouble (Decimal.natOfDigits digits) 0) := by
  have unsigned : Decimal.takeSign digits = (false, digits) := by
    cases digits with
    | nil => rfl
    | cons c digits =>
        have digit := all c List.mem_cons_self
        unfold Decimal.takeSign
        split <;> simp_all
  simp only [Decimal.read?, unsigned, Bool.false_eq_true, if_false, Option.map_id']
  split
  case h_4 => exact readUnsigned?_digits nonempty all
  all_goals exact absurd ‹_› (ofList_digits_ne all rfl)

/-- A whole number of 53 bits is the amount that its digits stand for. -/
theorem exists_amount?_toDigits {n : Nat} (fits : n < 2 ^ 53) :
    ∃ x, amount? (Nat.toDigits 10 n) = some x ∧ x.toUInt64.toNat = n := by
  have exact := Double.exactly_nearestDouble fits
  refine ⟨Decimal.nearestDouble n 0, ?_, Double.toUInt64_of_exactly fits exact⟩
  have finite := Double.isFinite_nearestDouble (Nat.lt_trans fits (by decide))
  have notLess := Double.not_lt_zero_of_exactly exact
  rw [amount?, read?_digits Nat.toDigits_ne_nil (Json.all_isDigit_toDigits n),
    Json.natOfDigits_toDigits, Option.filter_some]
  simp [finite, notLess]

/-! ## Fields -/

/-- A field that is found again between commas, without the blanks around it. -/
structure IsPlain (field : List Char) : Prop where
  comma : ',' ∉ field
  trimmed : IsTrimmed field

instance (field : List Char) : Decidable (IsPlain field) :=
  decidable_of_iff (',' ∉ field ∧ IsTrimmed field)
    ⟨fun plain => ⟨plain.1, plain.2⟩, fun plain => ⟨plain.comma, plain.trimmed⟩⟩

/-- A device as a listing can tell of it. -/
structure Device where
  name : String
  driverVersion : String
  memory : Nat
  plainName : IsPlain name.toList
  plainDriver : IsPlain driverVersion.toList
  exact : memory < 2 ^ 53

/-- A line with the fields of the device, any blanks around them, and any further fields. -/
inductive Describes (device : Device) : List Char → Prop
  | intro {name driver memory : List Char} (further : List (List Char))
      (named : Padded device.name.toList name)
      (versioned : Padded device.driverVersion.toList driver)
      (measured : Padded (Nat.toDigits 10 device.memory) memory) :
      Describes device
        (name ++ ',' :: (driver ++ ',' :: (memory ++ further.flatMap (',' :: ·))))

/-- The fields of the device are the first ones of the line. -/
def ReadsAs (device : Device) (line : List Char) : Prop :=
  ∃ further, fields line = device.name.toList :: device.driverVersion.toList ::
    Nat.toDigits 10 device.memory :: further

variable {device : Device} {line : List Char}

theorem isBlank_comma : isBlank ',' = false := by decide

theorem fields_trim (line : List Char) : fields (trim line) = fields line :=
  ((Text.padded_trim line).map_trim_splitOn isBlank_comma).symm

theorem splitOn_flatMap_comma {piece : List Char} (inside : ',' ∉ piece)
    (further : List (List Char)) :
    ∃ more, splitOn ',' (piece ++ further.flatMap (',' :: ·)) = piece :: more := by
  cases further with
  | nil => exact ⟨[], by rw [List.flatMap_nil, List.append_nil, Text.splitOn_of_not_mem inside]⟩
  | cons next further =>
      rw [List.flatMap_cons, List.cons_append, Text.splitOn_append inside]
      exact ⟨_, rfl⟩

theorem Describes.readsAs_trim (describes : Describes device line) : ReadsAs device (trim line) := by
  obtain ⟨further, named, versioned, measured⟩ := describes
  have digits := Json.all_isDigit_toDigits device.memory
  have visible : IsTrimmed (Nat.toDigits 10 device.memory) :=
    Text.isTrimmed_of_visible fun c member => Json.isBlank_of_isDigit (digits c member)
  have comma : ',' ∉ Nat.toDigits 10 device.memory := fun member =>
    absurd (digits ',' member) (by decide)
  obtain ⟨more, split⟩ := splitOn_flatMap_comma (measured.not_mem isBlank_comma comma) further
  refine ⟨more.map trim, ?_⟩
  rw [fields_trim, fields,
    Text.splitOn_append (named.not_mem isBlank_comma device.plainName.comma),
    Text.splitOn_append (versioned.not_mem isBlank_comma device.plainDriver.comma), split,
    List.map_cons, List.map_cons, List.map_cons,
    named.trim_of_isTrimmed device.plainName.trimmed,
    versioned.trim_of_isTrimmed device.plainDriver.trimmed, measured.trim_of_isTrimmed visible]

theorem Describes.trim_ne_nil (describes : Describes device line) : trim line ≠ [] := by
  obtain ⟨more, read⟩ := describes.readsAs_trim
  intro nothing
  rw [nothing] at read
  exact absurd (congrArg List.length read) (by simp [fields, Text.splitOn_nil])

/-! ## Lines -/

/-- A line that describes a device, or holds nothing. -/
inductive Shows : List Device → List Char → Prop
  | nothing {line : List Char} (blank : isBlankLine line = true) : Shows [] line
  | device {device : Device} {line : List Char} (describes : Describes device line) :
      Shows [device] line

/-- A text of such lines, none of which has a line feed in it.  Each but the last one ends in one of
the two ways. -/
inductive Lists : List Device → List Char → Prop
  | last {devices : List Device} {line : List Char} (single : '\n' ∉ line)
      (shown : Shows devices line) : Lists devices line
  | line {here others : List Device} {line rest : List Char} (single : '\n' ∉ line)
      (shown : Shows here line) (lineEnd : Text.LineEnd) (below : Lists others rest) :
      Lists (here ++ others) (line ++ (lineEnd.text ++ rest))

variable {first : Device} {devices others : List Device} {output : List Char}

/-- The line without the blanks around it, if anything is left. -/
def filledLine (line : List Char) : List (List Char) := [trim line].filter (!·.isEmpty)

theorem trim_append_return (line : List Char) : trim (line ++ ['\r']) = trim line :=
  Text.trim_append line (List.forall_mem_singleton.mpr (by decide))

theorem trim_dropCarriageReturn (line : List Char) :
    trim (Text.dropCarriageReturn line) = trim line := by
  rcases Text.eq_dropCarriageReturn line with same | same
  · rw [← same]
  · conv_rhs => rw [same, trim_append_return]

theorem filledLines_feed (single : '\n' ∉ line) (rest : List Char) :
    filledLines (line ++ '\n' :: rest) = filledLine line ++ filledLines rest := by
  rw [filledLines, Text.lines_append_feed, Text.splitOn_of_not_mem single, List.map_append,
    List.filter_append, List.map_singleton, List.map_singleton, trim_dropCarriageReturn]
  rfl

theorem filledLines_lineEnd (single : '\n' ∉ line) (lineEnd : Text.LineEnd) (rest : List Char) :
    filledLines (line ++ (lineEnd.text ++ rest)) = filledLine line ++ filledLines rest := by
  cases lineEnd with
  | feed => exact filledLines_feed single rest
  | returnFeed =>
      have returned : '\n' ∉ line ++ ['\r'] := by simp [single]
      have whole := filledLines_feed returned rest
      rw [List.append_assoc, filledLine, trim_append_return] at whole
      exact whole

theorem filledLines_single (single : '\n' ∉ line) : filledLines line = filledLine line := by
  rw [filledLines, Text.lines, Text.splitOn_of_not_mem single, Text.linesOfPieces]
  split
  · rename_i empty
    rw [List.isEmpty_iff.mp empty]
    rfl
  · rfl

theorem Shows.forall₂ (shown : Shows devices line) :
    List.Forall₂ ReadsAs devices (filledLine line) := by
  cases shown with
  | nothing blank =>
      rw [filledLine, Text.trim_eq_nil_iff.mpr blank]
      exact .nil
  | device describes =>
      have filled : filledLine line = [trim line] := by
        simp [filledLine, describes.trim_ne_nil]
      rw [filled]
      exact .cons describes.readsAs_trim .nil

/-- The lines that hold something are those of the devices, in their order. -/
theorem Lists.forall₂ (lists : Lists devices output) :
    List.Forall₂ ReadsAs devices (filledLines output) := by
  induction lists with
  | last single shown =>
      rw [filledLines_single single]
      exact shown.forall₂
  | line single shown lineEnd _ ih =>
      rw [filledLines_lineEnd single]
      exact List.rel_append shown.forall₂ ih

/-- What a query tells of the device, and of how many there are. -/
structure Reports (query : GpuQuery) (device : Device) (count : Nat) : Prop where
  name : query.name = device.name
  driverVersion : query.driverVersion = device.driverVersion
  memory : query.vramTotalMb.toNat = device.memory
  count : query.count.toNat = count

theorem Lists.exists_gpuQuery? (lists : Lists (first :: others) output)
    (few : (first :: others).length < 2 ^ 32) :
    ∃ query, gpuQuery? output = some query ∧ Reports query first (first :: others).length := by
  have read := lists.forall₂
  cases filled : filledLines output with
  | nil =>
      rw [filled] at read
      cases read
  | cons line below =>
      rw [filled] at read
      obtain ⟨⟨further, start⟩, rest⟩ := List.forall₂_cons.mp read
      obtain ⟨x, amount, word⟩ := exists_amount?_toDigits first.exact
      simp only [gpuQuery?, filled, start, amount, Option.map_some]
      refine ⟨_, rfl, String.ofList_toList, String.ofList_toList, word, ?_⟩
      rw [← rest.length_eq]
      exact Nat.mod_eq_of_lt few

/-! ## Texts without an answer -/

/-- The line is the first one of the text that holds more than blanks. -/
def IsFirstFilled (output line : List Char) : Prop :=
  ∃ above below, Text.lines output = above ++ line :: below ∧
    (∀ blank ∈ above, isBlankLine blank = true) ∧ isBlankLine line = false

/-- What stands between the commas of the line. -/
structure IsCutInto (line : List Char) (pieces : List (List Char)) : Prop where
  nonempty : pieces ≠ []
  inside : ∀ piece ∈ pieces, ',' ∉ piece
  whole : [','].intercalate pieces = line

/-- The ways in which a text lists no device: it holds nothing, or its first line has too few fields
or no amount for the memory. -/
inductive ListsNothing (output : List Char) : Prop
  | blank (all : ∀ line ∈ Text.lines output, isBlankLine line = true)
  | short {line : List Char} {pieces : List (List Char)} (first : IsFirstFilled output line)
      (cut : IsCutInto line pieces) (few : pieces.length < 3)
  | unmeasured {line memory : List Char} {pieces : List (List Char)}
      (first : IsFirstFilled output line) (cut : IsCutInto line pieces)
      (third : pieces[2]? = some memory) (other : ¬ IsAmount (trim memory))

variable {pieces : List (List Char)}

theorem isCutInto_splitOn (line : List Char) : IsCutInto line (splitOn ',' line) where
  nonempty := Text.splitOn_ne_nil ',' line
  inside _ member := Text.not_mem_of_mem_splitOn member
  whole := Text.intercalate_splitOn ',' line

theorem IsCutInto.fields_eq (cut : IsCutInto line pieces) : fields line = pieces.map trim := by
  rw [fields, ← cut.whole, Text.splitOn_intercalate cut.nonempty cut.inside]

theorem filledLines_eq (output : List Char) :
    filledLines output = ((Text.lines output).filter (!isBlankLine ·)).map trim := by
  rw [filledLines, List.filter_map]
  congr 1
  apply List.filter_congr
  intro line _
  rw [Function.comp_apply, Bool.not_inj_iff, Bool.eq_iff_iff, List.isEmpty_iff]
  exact Text.trim_eq_nil_iff

theorem filledLines_eq_nil_iff :
    filledLines output = [] ↔ ∀ line ∈ Text.lines output, isBlankLine line = true := by
  simp [filledLines_eq]

theorem isFirstFilled_iff :
    IsFirstFilled output line ↔
      ∃ below, (Text.lines output).filter (!isBlankLine ·) = line :: below := by
  simp [IsFirstFilled, List.filter_eq_cons_iff]

theorem exists_isFirstFilled (filled : filledLines output ≠ []) :
    ∃ line, IsFirstFilled output line := by
  rw [filledLines_eq, Ne, List.map_eq_nil_iff] at filled
  obtain ⟨line, below, same⟩ := List.exists_cons_of_ne_nil filled
  exact ⟨line, isFirstFilled_iff.mpr ⟨below, same⟩⟩

theorem IsFirstFilled.exists_filledLines (first : IsFirstFilled output line) :
    ∃ below, filledLines output = trim line :: below := by
  obtain ⟨below, same⟩ := isFirstFilled_iff.mp first
  exact ⟨below.map trim, by rw [filledLines_eq, same, List.map_cons]⟩

/-- The first line that holds something decides whether there is an answer. -/
theorem IsFirstFilled.gpuQuery?_eq_none_iff (first : IsFirstFilled output line)
    (cut : IsCutInto line pieces) :
    gpuQuery? output = none ↔
      pieces.length < 3 ∨ ∃ memory, pieces[2]? = some memory ∧ ¬ IsAmount (trim memory) := by
  obtain ⟨below, filled⟩ := first.exists_filledLines
  simp only [gpuQuery?, filled, fields_trim, cut.fields_eq]
  match pieces with
  | [] => simp
  | [_] => simp
  | [_, _] => simp
  | _ :: _ :: memory :: _ => simp [amount?_eq_none_iff]

theorem gpuQuery?_eq_none_iff : gpuQuery? output = none ↔ ListsNothing output := by
  constructor
  · intro refused
    by_cases filled : filledLines output = []
    · exact .blank (filledLines_eq_nil_iff.mp filled)
    · obtain ⟨line, first⟩ := exists_isFirstFilled filled
      have cut := isCutInto_splitOn line
      rcases (first.gpuQuery?_eq_none_iff cut).mp refused with few | ⟨memory, third, other⟩
      · exact .short first cut few
      · exact .unmeasured first cut third other
  · intro listsNothing
    cases listsNothing with
    | blank all => simp only [gpuQuery?, filledLines_eq_nil_iff.mpr all]
    | short first cut few => exact (first.gpuQuery?_eq_none_iff cut).mpr (.inl few)
    | unmeasured first cut third other =>
        exact (first.gpuQuery?_eq_none_iff cut).mpr (.inr ⟨_, third, other⟩)

/-- A listing of devices is read back, and a text is refused exactly if it lists nothing. -/
theorem gpuQuery?_of_listing :
    (∀ first others output, Lists (first :: others) output →
      (first :: others).length < 2 ^ 32 →
        ∃ query, gpuQuery? output = some query ∧
          Reports query first (first :: others).length) ∧
      ∀ output, gpuQuery? output = none ↔ ListsNothing output :=
  ⟨fun _ _ _ lists few => lists.exists_gpuQuery? few, fun _ => gpuQuery?_eq_none_iff⟩

def a800 : Device := ⟨"NVIDIA A800", "535.1", 81920, by decide, by decide, by decide⟩

def t4 : Device := ⟨"Tesla T4", "535.1", 15360, by decide, by decide, by decide⟩

/-- Two devices below an empty line, the first one with a further field and the other line end. -/
def twoDevices : List Char := "\n NVIDIA A800 ,535.1, 81920, 2\r\nTesla T4,535.1,15360".toList

theorem lists_twoDevices : Lists [a800, t4] twoDevices := by
  have named : Padded a800.name.toList " NVIDIA A800 ".toList :=
    Text.padded_of_trim_eq (by decide)
  have versioned : Padded a800.driverVersion.toList "535.1".toList :=
    Text.padded_of_trim_eq (by decide)
  have measured : Padded (Nat.toDigits 10 a800.memory) " 81920".toList :=
    Text.padded_of_trim_eq (by decide)
  have named' : Padded t4.name.toList "Tesla T4".toList := Text.padded_of_trim_eq (by decide)
  have measured' : Padded (Nat.toDigits 10 t4.memory) "15360".toList :=
    Text.padded_of_trim_eq (by decide)
  have upper := Describes.intro [" 2".toList] named versioned measured
  have lower := Describes.intro [] named' versioned measured'
  have blank : Shows [] [] := .nothing rfl
  exact .line (by decide) blank .feed
    (.line (by decide) (.device upper) .returnFeed (.last (by decide) (.device lower)))

theorem gpuQuery?_of_twoDevices :
    Lists [a800, t4] twoDevices ∧ [a800, t4].length < 2 ^ 32 ∧
      ∃ query, gpuQuery? twoDevices = some query ∧ Reports query a800 2 := by
  have few : [a800, t4].length < 2 ^ 32 := by decide
  exact ⟨lists_twoDevices, few, gpuQuery?_of_listing.1 a800 [t4] twoDevices lists_twoDevices few⟩

end EnergyAudit.Probe
