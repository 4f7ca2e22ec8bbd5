import EnergyAudit.Proofs.Rule.LineOrder

/-! # Names of small models

A spelling stands for a list of words, one for each choice of the characters that may be left out.
A model is named where one of its words stands in the text, with case left out of account: the small
words are ASCII, and besides the capitals only the long s and the Kelvin sign fold to a character of
theirs.  The first model of the table that is named anywhere is the one that the source is about,
and it is reported at the first line whose code switches 4-bit loading on. -/

namespace EnergyAudit.Rule

open Pattern (fold isSmall SameLetters)
open Text (splitOn)

/-- The word is a way to write the spelling: each character that may be left out is there or not. -/
inductive Spells : List (Char × Bool) → List Char → Prop where
  | nil : Spells [] []
  | written {c : Char} {optional : Bool} {spelling : List (Char × Bool)} {word : List Char}
      (rest : Spells spelling word) : Spells ((c, optional) :: spelling) (c :: word)
  | leftOut {c : Char} {spelling : List (Char × Bool)} {word : List Char}
      (rest : Spells spelling word) : Spells ((c, true) :: spelling) word

/-- A word of the spelling stands in the text, whatever the case of its letters. -/
def SmallModel.IsNamedIn (model : SmallModel) (text : List Char) : Prop :=
  ∃ word, Spells model.spelling word ∧ word <:+: text.map fold

/-- The model is named in the text, and none above it in the table is. -/
structure SmallModel.IsFirstNamedIn (model : SmallModel) (text : List Char) : Prop where
  named : model.IsNamedIn text
  first : ∃ above below, smallModels = above ++ model :: below ∧
    ∀ other ∈ above, ¬ other.IsNamedIn text

variable {spelling : List (Char × Bool)} {word piece rest source text : List Char}
  {model : SmallModel} {p : Pattern}

/-! ## Words of a spelling -/

theorem mem_expansions_iff : word ∈ expansions spelling ↔ Spells spelling word := by
  induction spelling generalizing word with
  | nil =>
      rw [expansions, List.mem_singleton]
      constructor
      · rintro rfl
        exact .nil
      · rintro ⟨⟩
        rfl
  | cons letter spelling ih =>
      obtain ⟨c, optional⟩ := letter
      have longer : word ∈ (expansions spelling).map (c :: ·) ↔
          ∃ rest, Spells spelling rest ∧ c :: rest = word := by
        simp only [List.mem_map, ih]
      cases optional with
      | false =>
          rw [expansions, if_neg Bool.false_ne_true, longer]
          constructor
          · rintro ⟨rest, spells, rfl⟩
            exact .written spells
          · rintro ⟨⟩
            exact ⟨_, ‹_›, rfl⟩
      | true =>
          rw [expansions, if_pos rfl, List.mem_append, longer, ih]
          constructor
          · rintro (⟨rest, spells, rfl⟩ | spells)
            · exact .written spells
            · exact .leftOut spells
          · rintro (_ | spells | spells)
            · exact .inl ⟨_, spells, rfl⟩
            · exact .inr spells

theorem Spells.isSmall (spells : Spells spelling word)
    (small : isSmall (spelling.map (·.1)) = true) : isSmall word = true := by
  induction spells with
  | nil => rfl
  | written _ ih =>
      rw [Pattern.isSmall, List.map_cons, List.all_cons, Bool.and_eq_true] at small
      rw [Pattern.isSmall, List.all_cons, Bool.and_eq_true]
      exact ⟨small.1, ih small.2⟩
  | leftOut _ ih =>
      rw [Pattern.isSmall, List.map_cons, List.all_cons, Bool.and_eq_true] at small
      exact ih small.2

theorem matches_letter_iff {c : Char} {optional : Bool} :
    (if optional then Pattern.maybe (.one (Pattern.sameLetter c))
      else .one (Pattern.sameLetter c)).Matches piece rest ↔
        (∃ d, Pattern.sameLetter c d = true ∧ piece = [d]) ∨ optional = true ∧ piece = [] := by
  cases optional <;> simp [Pattern.matches_maybe_iff, Pattern.matches_one_iff]

theorem exists_spells_of_matches (found : (spellingPattern spelling).Matches piece rest) :
    ∃ word, Spells spelling word ∧ SameLetters word piece := by
  induction spelling generalizing piece with
  | nil =>
      obtain rfl := Pattern.matches_nothing_iff.mp found
      exact ⟨[], .nil, .nil⟩
  | cons letter spelling ih =>
      obtain ⟨left, right, first, others, rfl⟩ := Pattern.matches_seq_iff.mp found
      obtain ⟨word, spells, same⟩ := ih others
      rcases matches_letter_iff.mp first with ⟨d, form, rfl⟩ | ⟨optional, rfl⟩
      · exact ⟨letter.1 :: word, .written spells, .cons form same⟩
      · obtain ⟨c, _⟩ := letter
        obtain rfl : _ = true := optional
        exact ⟨word, .leftOut spells, same⟩

theorem Spells.matches (spells : Spells spelling word) (same : SameLetters word piece) :
    (spellingPattern spelling).Matches piece rest := by
  induction spells generalizing piece with
  | nil =>
      obtain ⟨⟩ := same
      exact .nothing
  | written _ ih =>
      obtain ⟨⟩ | ⟨form, others⟩ := same
      exact .seq (matches_letter_iff.mpr (.inl ⟨_, form, rfl⟩)) (ih others)
  | leftOut _ ih => exact .seq (matches_letter_iff.mpr (.inr ⟨rfl, rfl⟩)) (ih same)

/-- The pattern of a spelling describes the forms of its words. -/
theorem matches_spellingPattern_iff : (spellingPattern spelling).Matches piece rest ↔
    ∃ word, Spells spelling word ∧ SameLetters word piece :=
  ⟨exists_spells_of_matches, fun ⟨_, spells, same⟩ => spells.matches same⟩

/-! ## Where a model is named -/

theorem smallModels_are_small : ∀ model ∈ smallModels,
    isSmall (model.spelling.map (·.1)) = true := by
  decide

/-- A search with the pattern of a model is a plain search for its words. -/
theorem occursIn_iff_isNamedIn (listed : model ∈ smallModels) :
    model.occursIn text = true ↔ model.IsNamedIn text := by
  have small := smallModels_are_small model listed
  rw [SmallModel.occursIn, Pattern.occursIn_iff, SmallModel.IsNamedIn]
  constructor
  · rintro ⟨before, piece, after, rfl, found⟩
    obtain ⟨word, spells, same⟩ := matches_spellingPattern_iff.mp found
    refine ⟨word, spells, before.map fold, after.map fold, ?_⟩
    rw [← (Pattern.sameLetters_iff (spells.isSmall small)).mp same, List.map_append,
      List.map_append]
  · rintro ⟨word, spells, before', after', whole⟩
    obtain ⟨_, after, rfl, front, rfl⟩ := List.map_eq_append_iff.mp whole.symm
    obtain ⟨before, piece, rfl, rfl, folded⟩ := List.map_eq_append_iff.mp front
    have same := (Pattern.sameLetters_iff (spells.isSmall small)).mpr folded
    exact ⟨before, piece, after, rfl, matches_spellingPattern_iff.mpr ⟨word, spells, same⟩⟩

/-- A plain search in the folded text for one word after the other. -/
theorem isNamedIn_iff_contains : model.IsNamedIn text ↔
    ((expansions model.spelling).any fun word => Text.contains word (text.map fold)) = true := by
  simp only [SmallModel.IsNamedIn, List.any_eq_true, Text.contains_iff, mem_expansions_iff]

instance : Decidable (model.IsNamedIn text) := decidable_of_iff _ isNamedIn_iff_contains.symm

theorem find?_occursIn (source : List Char) :
    smallModels.find? (·.occursIn source) = smallModels.find? fun model => model.IsNamedIn source :=
  List.find?_congr fun _ listed =>
    Bool.eq_iff_iff.mpr ((occursIn_iff_isNamedIn listed).trans decide_eq_true_iff.symm)

theorem find?_occursIn_eq_some_iff :
    smallModels.find? (·.occursIn source) = some model ↔ model.IsFirstNamedIn source := by
  rw [find?_occursIn, List.find?_eq_some_iff_append]
  simp only [decide_eq_true_eq, Bool.not_eq_true', decide_eq_false_iff_not]
  exact ⟨fun ⟨named, first⟩ => ⟨named, first⟩, fun ⟨named, first⟩ => ⟨named, first⟩⟩

theorem smallModel?_eq_some_iff {name : String} : smallModel? source = some name ↔
    ∃ model : SmallModel, model.IsFirstNamedIn source ∧ model.name = name := by
  simp only [smallModel?, Option.map_eq_some_iff, find?_occursIn_eq_some_iff]

theorem smallModel?_eq_none_iff :
    smallModel? source = none ↔ ∀ model ∈ smallModels, ¬ model.IsNamedIn source := by
  rw [smallModel?, Option.map_eq_none_iff, List.find?_eq_none]
  exact forall₂_congr fun model listed => not_congr (occursIn_iff_isNamedIn listed)

/-! ## Lines that name a model -/

/-- A pattern that does not notice a carriage return at the end of a text is found in a line if it
is found between two line feeds. -/
theorem exists_occursIn_linesOfPieces {pieces : List (List Char)}
    (overlooked : p.overlooks '\r' = true) (listed : text ∈ pieces)
    (occurs : p.occursIn text = true) :
    ∃ line ∈ Text.linesOfPieces pieces, p.occursIn line = true := by
  fun_induction Text.linesOfPieces pieces with
  | case1 => exact absurd listed List.not_mem_nil
  | case2 last empty =>
      obtain rfl := List.mem_singleton.mp listed
      rw [List.isEmpty_iff.mp empty, occursIn_nil overlooked] at occurs
      contradiction
  | case3 last filled =>
      obtain rfl := List.mem_singleton.mp listed
      exact ⟨text, List.mem_singleton_self text, occurs⟩
  | case4 piece pieces several ih =>
      rcases List.mem_cons.mp listed with rfl | listed
      · refine ⟨_, List.mem_cons_self, ?_⟩
        rcases Text.eq_dropCarriageReturn text with same | returned
        · rwa [← same]
        · rwa [returned, Pattern.occursIn_append_singleton overlooked] at occurs
      · obtain ⟨line, inside, found⟩ := ih listed
        exact ⟨line, List.mem_cons_of_mem _ inside, found⟩

theorem smallModels_overlook_return : ∀ model ∈ smallModels,
    (spellingPattern model.spelling).overlooks '\r' = true := by
  decide

theorem SmallModel.IsNamedIn.infix (named : model.IsNamedIn text) (inside : text <:+: source) :
    model.IsNamedIn source := by
  obtain ⟨word, spells, stands⟩ := named
  exact ⟨word, spells, stands.trans (inside.map fold)⟩

/-- A model that is named in a source is named in one of its lines, be it in a comment. -/
theorem isNamedIn_iff_lines (listed : model ∈ smallModels) :
    model.IsNamedIn source ↔ ∃ line ∈ Text.lines source, model.IsNamedIn line := by
  constructor
  · intro named
    obtain ⟨piece, cut, occurs⟩ := Pattern.exists_occursIn_splitOn
      (smallModels_stay_in_line model listed).1 ((occursIn_iff_isNamedIn listed).mpr named)
    obtain ⟨line, inside, found⟩ := exists_occursIn_linesOfPieces
      (smallModels_overlook_return model listed) cut occurs
    exact ⟨line, inside, (occursIn_iff_isNamedIn listed).mp found⟩
  · rintro ⟨line, inside, named⟩
    exact named.infix (Text.mem_lines_inside inside)

/-! ## What is reported -/

/-- The code of a line switches 4-bit loading on, and a small model is named anywhere. -/
def LoadsSmallModel (source : List Char) : Prop :=
  (∃ number, FlagAt "load_in_4bit" source number) ∧ ∃ model ∈ smallModels, model.IsNamedIn source

/-- The finding names the model that the source is about, and is at the first line whose code
switches 4-bit loading on. -/
structure IsAboutSmallModel (finding : Finding) (source : List Char) (file : String)
    (model : SmallModel) (number : Nat) : Prop where
  firstNamed : model.IsFirstNamedIn source
  firstFlag : IsLeast {number | FlagAt "load_in_4bit" source number} number
  ruleId : finding.ruleId = smallModelNf4.id
  title : finding.title = "NF4 quantization on small model (" ++ model.name ++ ")"
  file : finding.file = file
  line : finding.line = some (UInt64.ofNat number)
  kept : source.length < UInt64.size → (UInt64.ofNat number).toNat = number

theorem fourBitLine?_iff (source : List Char) :
    (∀ number, fourBitLine? source = some number ↔
        IsLeast {number | FlagAt "load_in_4bit" source number} number) ∧
      (fourBitLine? source = none ↔ ∀ number, ¬ FlagAt "load_in_4bit" source number) :=
  firstLine?_iff (fun _ => occursIn_fourBitFlag_iff) (codeLines source)

theorem check_of_loadsSmallModel (loads : LoadsSmallModel source) (file : String) :
    ∃ finding, smallModelNf4.check source file = [finding] ∧
      ∃ model number, IsAboutSmallModel finding source file model number := by
  obtain ⟨⟨line, flag⟩, model, listed, named⟩ := loads
  rw [check_smallModelNf4]
  cases search : smallModel? source with
  | none => exact absurd named (smallModel?_eq_none_iff.mp search model listed)
  | some name =>
      cases flagged : fourBitLine? source with
      | none => exact absurd flag ((fourBitLine?_iff source).2.mp flagged line)
      | some number =>
          obtain ⟨first, isFirst, rfl⟩ := smallModel?_eq_some_iff.mp search
          have within : IsLineOf source (some number) := flagged ▸ isLineOf_firstLine? _ source
          exact ⟨_, rfl, first, number, isFirst, ((fourBitLine?_iff source).1 number).mp flagged,
            rfl, rfl, rfl, rfl, toNat_ofNat_of_isLineOf within⟩

theorem check_of_not_loadsSmallModel (loads : ¬ LoadsSmallModel source) (file : String) :
    smallModelNf4.check source file = [] := by
  rw [check_smallModelNf4]
  cases search : smallModel? source with
  | none => rfl
  | some name =>
      cases flagged : fourBitLine? source with
      | none => rfl
      | some number =>
          obtain ⟨model, isFirst, -⟩ := smallModel?_eq_some_iff.mp search
          obtain ⟨above, below, split, -⟩ := isFirst.first
          have listed : model ∈ smallModels := by simp [split]
          have flag := (((fourBitLine?_iff source).1 number).mp flagged).1
          exact absurd ⟨⟨number, flag⟩, model, listed, isFirst.named⟩ loads

/-- The search for small models is a plain search for the words of their spellings in the folded
text: it gives the name of the first model of the table that is named, and none exactly if none is.
The rule reports one finding exactly if a model is named, on whatever line, and the code of a line
switches 4-bit loading on; the finding names that model and is at the first such line. -/
theorem smallModel?_finds_first (source : List Char) :
    (∀ name, smallModel? source = some name ↔
        ∃ model : SmallModel, model.IsFirstNamedIn source ∧ model.name = name) ∧
      (smallModel? source = none ↔ ∀ model ∈ smallModels, ¬ model.IsNamedIn source) ∧
      (∀ model ∈ smallModels,
        (model.IsNamedIn source ↔ ∃ line ∈ Text.lines source, model.IsNamedIn line)) ∧
      ∀ file,
        (LoadsSmallModel source ↔ ∃ finding, smallModelNf4.check source file = [finding]) ∧
        (¬ LoadsSmallModel source ↔ smallModelNf4.check source file = []) ∧
        ∀ finding ∈ smallModelNf4.check source file,
          ∃ model number, IsAboutSmallModel finding source file model number := by
  refine ⟨fun name => smallModel?_eq_some_iff, smallModel?_eq_none_iff,
    fun model listed => isNamedIn_iff_lines listed, fun file => ?_⟩
  by_cases loads : LoadsSmallModel source
  · obtain ⟨finding, only, about⟩ := check_of_loadsSmallModel loads file
    simpa [loads, only] using about
  · simp [loads, check_of_not_loadsSmallModel loads file]

/-- Two models, one of them named in a comment and with a long s, and a flag that counts on the
third line only. -/
def modelInComment : String :=
  "m = 'gpt2'\n# load_in_4bit=True\nf(LOAD_IN_4BIT = True)  # GPT-2\n# not \u017fTABLELM-21.6\n"

theorem smallModel?_finds_first_in_comment :
    smallModel? modelInComment.toList = some "StableLM-1.6B" ∧
      LoadsSmallModel modelInComment.toList ∧
      ∃ finding, smallModelNf4.check modelInComment.toList "run.py" = [finding] ∧
        finding.title = "NF4 quantization on small model (StableLM-1.6B)" ∧
        finding.line = some 3 := by
  obtain ⟨found, -, -, reports⟩ := smallModel?_finds_first modelInComment.toList
  obtain ⟨loads, silent, about⟩ := reports "run.py"
  have named : smallModel? modelInComment.toList = some "StableLM-1.6B" := by decide +kernel
  have third : fourBitLine? modelInComment.toList = some 3 := by decide +kernel
  have spoken : smallModelNf4.check modelInComment.toList "run.py" ≠ [] := by decide +kernel
  have loaded : LoadsSmallModel modelInComment.toList := not_not.mp (mt silent.mp spoken)
  obtain ⟨finding, only⟩ := loads.mp loaded
  obtain ⟨model, number, facts⟩ := about finding (only ▸ List.mem_singleton_self finding)
  have name := (found model.name).mpr ⟨model, facts.firstNamed, rfl⟩
  have line := ((fourBitLine?_iff _).1 number).mpr facts.firstFlag
  obtain rfl := Option.some.inj (third.symm.trans line)
  refine ⟨named, loaded, finding, only, ?_, facts.line⟩
  rw [facts.title, ← Option.some.inj (named.symm.trans name)]
  rfl

end EnergyAudit.Rule
