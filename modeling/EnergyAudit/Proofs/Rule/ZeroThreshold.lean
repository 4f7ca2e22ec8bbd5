import EnergyAudit.Proofs.Json.Numeral
import EnergyAudit.Proofs.Rule.Loading

/-! # Thresholds that are zero

A code that gives the outlier threshold once silences the rule on 8-bit loading exactly if the
number that it gives is zero, with any run of digits behind the point. -/

namespace EnergyAudit.Rule

open Pattern (fold)
open Text (isBlank isDecimalDigit)

/-- A number as a program writes it: a whole part without leading zeros, and perhaps a point with
any number of digits behind it. -/
structure DecimalLiteral where
  whole : List Char
  places : Option (List Char)
  isWhole : Json.IsWhole whole
  isDigit : ∀ digits ∈ places, ∀ c ∈ digits, c.isDigit = true

namespace DecimalLiteral

variable (d : DecimalLiteral)

/-- The digits behind the point, if there are any. -/
def fraction : List Char := d.places.getD []

def text : List Char := d.whole ++ d.places.elim [] ('.' :: ·)

def value : ℚ := Decimal.natOfDigits (d.whole ++ d.fraction) / 10 ^ d.fraction.length

end DecimalLiteral

/-- The name of the threshold stands in the code of the line, behind `before`. -/
def ThresholdAt (source : List Char) (number : Nat) (before : List Char) : Prop :=
  ∃ name after, LineAt (codeLines source) number (before ++ (name ++ after)) ∧
    name.map fold = "llm_int8_threshold".toList

/-- The text gives the threshold behind `before` the literal, and the literal ends there. -/
inductive Assigns (d : DecimalLiteral) (before : List Char) : List Char → Prop where
  | intro {name gap gap' after : List Char} (named : name.map fold = "llm_int8_threshold".toList)
      (gapBlank : ∀ c ∈ gap, isBlank c = true) (gapBlank' : ∀ c ∈ gap', isBlank c = true)
      (ends : ∀ c ∈ after.head?, isDecimalDigit c = false ∧ c ≠ '.') :
      Assigns d before
        (before ++ (name ++ (gap ++ ("=".toList ++ (gap' ++ (d.text ++ after))))))

/-- The code names the threshold at one place, and gives it the literal there. -/
structure AssignsOnce (source : List Char) (d : DecimalLiteral) (number : Nat)
    (before : List Char) : Prop where
  assigned : HoldsAt (Assigns d before) (codeLines source) number
  only : ∀ number' before', ThresholdAt source number' before' →
    number' = number ∧ before' = before

/-! ## Where a run of characters ends -/

variable {source before places after after' line : List Char} {number : Nat} {d : DecimalLiteral}

theorem takeWhile_eq_of_ends {p : Char → Bool} {run rest : List Char}
    (all : ∀ c ∈ run, p c = true) (ends : ∀ c ∈ rest.head?, p c = false) :
    (run ++ rest).takeWhile p = run := by
  rw [List.takeWhile_append_of_pos all]
  cases rest with
  | nil => simp
  | cons c rest => simp [ends c rfl]

/-- A run of characters of a kind and what follows it are told from each other. -/
theorem append_inj_of_ends {p : Char → Bool} {run rest run' rest' : List Char}
    (all : ∀ c ∈ run, p c = true) (ends : ∀ c ∈ rest.head?, p c = false)
    (all' : ∀ c ∈ run', p c = true) (ends' : ∀ c ∈ rest'.head?, p c = false)
    (same : run ++ rest = run' ++ rest') : run = run' ∧ rest = rest' := by
  have runs : run = run' := by
    rw [← takeWhile_eq_of_ends all ends, same, takeWhile_eq_of_ends all' ends']
  subst runs
  exact ⟨rfl, List.append_cancel_left same⟩

theorem isDecimalDigit_of_isDigit {c : Char} (digit : c.isDigit = true) :
    isDecimalDigit c = true := by
  obtain ⟨-, high⟩ := Json.toNat_of_isDigit digit
  rw [isDecimalDigit, if_pos (by omega), digit]

theorem isDigit_of_isDecimalDigit_eq_false {c : Char} (other : isDecimalDigit c = false) :
    c.isDigit = false := by
  cases digit : c.isDigit with
  | false => rfl
  | true => rw [isDecimalDigit_of_isDigit digit] at other; contradiction

/-! ## Literals of the value zero -/

namespace DecimalLiteral

theorem isDigit_fraction (d : DecimalLiteral) : ∀ c ∈ d.fraction, c.isDigit = true := by
  rw [fraction]
  cases parts : d.places with
  | none => nofun
  | some digits => exact d.isDigit digits parts

theorem value_eq_zero_iff_digits (d : DecimalLiteral) :
    d.value = 0 ↔ (∀ c ∈ d.whole, c = '0') ∧ ∀ c ∈ d.fraction, c = '0' := by
  have all : ∀ c ∈ d.whole ++ d.fraction, c.isDigit = true :=
    List.forall_mem_append.mpr ⟨d.isWhole.digits, d.isDigit_fraction⟩
  have scale : (10 : ℚ) ^ d.fraction.length ≠ 0 := by positivity
  rw [value, div_eq_zero_iff, or_iff_left scale, Nat.cast_eq_zero,
    Json.natOfDigits_eq_zero_iff all, List.forall_mem_append]

/-- The whole part starts with a zero only if it is one. -/
theorem whole_eq_of_head {rest : List Char} (d : DecimalLiteral) (starts : d.whole = '0' :: rest) :
    rest = [] := by
  have single := d.isWhole.lead (by rw [starts]; rfl)
  rw [starts, List.length_cons] at single
  exact List.length_eq_zero_iff.mp (by omega)

/-- A literal is zero exactly if it is the digit zero, with zeros behind the point if there is
one. -/
theorem value_eq_zero_iff (d : DecimalLiteral) :
    d.value = 0 ↔ ∃ places, ZeroPlaces places ∧ d.text = '0' :: places := by
  rw [value_eq_zero_iff_digits, fraction, text]
  obtain ⟨c, rest, starts⟩ := List.exists_cons_of_ne_nil d.isWhole.nonempty
  constructor
  · rintro ⟨zero, zeros⟩
    obtain rfl : c = '0' := zero c (by simp [starts])
    obtain rfl := d.whole_eq_of_head starts
    rw [starts]
    cases parts : d.places with
    | none => exact ⟨[], .none, rfl⟩
    | some digits =>
        rw [parts] at zeros
        exact ⟨_, .point zeros, rfl⟩
  · rintro ⟨places, zero, same⟩
    rw [starts, List.cons_append, List.cons.injEq] at same
    obtain ⟨rfl, same⟩ := same
    obtain rfl := d.whole_eq_of_head starts
    refine ⟨by simp [starts], ?_⟩
    cases parts : d.places with
    | none => nofun
    | some digits =>
        rw [parts] at same
        cases zero with
        | none => exact nomatch same
        | point all =>
            obtain rfl := List.tail_eq_of_cons_eq same
            exact all

end DecimalLiteral

/-- Where a literal ends, a zero cannot be only its first part. -/
theorem text_eq_of_zeroPlaces (zero : ZeroPlaces places)
    (ends : ∀ c ∈ after.head?, isDecimalDigit c = false ∧ c ≠ '.')
    (stops : ∀ c ∈ after'.head?, isDecimalDigit c = false ∧ c ≠ '.')
    (same : '0' :: (places ++ after) = d.text ++ after') : d.text = '0' :: places := by
  obtain ⟨c, rest, starts⟩ := List.exists_cons_of_ne_nil d.isWhole.nonempty
  rw [DecimalLiteral.text, starts, List.cons_append, List.cons_append, List.cons.injEq] at same
  obtain ⟨rfl, same⟩ := same
  obtain rfl := d.whole_eq_of_head starts
  rw [DecimalLiteral.text, starts, List.cons_append, List.nil_append]
  rw [List.nil_append] at same
  -- A point in one reading only would stand behind the number of the other.
  cases parts : d.places with
  | none =>
      rw [parts] at same
      cases zero with
      | none => rfl
      | @point zeros _ =>
          have behind : '.' :: (zeros ++ after) = after' := same
          exact absurd rfl (stops '.' (by rw [← behind]; rfl)).2
  | some digits =>
      rw [parts] at same
      cases zero with
      | none =>
          have behind : after = '.' :: (digits ++ after') := same
          exact absurd rfl (ends '.' (by rw [behind]; rfl)).2
      | @point zeros all =>
          have isDigit : ∀ c ∈ zeros, c.isDigit = true := fun c member => by
            rw [all c member]
            rfl
          obtain ⟨rfl, -⟩ := append_inj_of_ends isDigit
            (fun c first => isDigit_of_isDecimalDigit_eq_false (ends c first).1)
            (d.isDigit digits parts)
            (fun c first => isDigit_of_isDecimalDigit_eq_false (stops c first).1)
            (List.tail_eq_of_cons_eq same)
          rfl

/-! ## The one place of the threshold -/

theorem setsToZero_of_assigns (assigns : Assigns d before line) (zero : d.value = 0) :
    SetsToZero line := by
  obtain ⟨places, zeroPlaces, text⟩ := d.value_eq_zero_iff.mp zero
  cases assigns with
  | intro named gapBlank gapBlank' ends =>
      rw [text]
      exact .intro named gapBlank gapBlank' zeroPlaces ends

/-- The threshold at the one place is set to zero only by a literal that is zero. -/
theorem AssignsOnce.value_eq_zero (once : AssignsOnce source d number before)
    (member : line ∈ codeLines source) (sets : SetsToZero line) : d.value = 0 := by
  obtain ⟨number', atLine'⟩ := exists_lineAt_iff_mem.mpr member
  obtain ⟨code, atLine, assigns⟩ := once.assigned
  cases sets with
  | @intro _ name' gap' _ places after' named' blank' blankBehind' zero ends' =>
      obtain ⟨rfl, rfl⟩ := once.only _ _ ⟨name', _, atLine', named'⟩
      have same := atLine'.unique atLine
      cases assigns with
      | @intro name gap _ after named blank blankBehind ends =>
          have length : name'.length = name.length := by
            simpa using congrArg List.length (named'.trans named.symm)
          -- The name, the blanks and the sign end at the same places in both readings.
          obtain ⟨-, behindName⟩ := List.append_inj (List.append_cancel_left same) length
          have equals : isBlank '=' = false := by decide
          obtain ⟨-, sign⟩ := append_inj_of_ends blank' (by simp [equals]) blank
            (by simp [equals]) behindName
          obtain ⟨first, rest, starts⟩ := List.exists_cons_of_ne_nil d.isWhole.nonempty
          have digit : isBlank first = false :=
            Json.isBlank_of_isDigit (d.isWhole.digits first (by simp [starts]))
          have nought : isBlank '0' = false := Json.isBlank_of_isDigit rfl
          obtain ⟨-, literal⟩ := append_inj_of_ends blankBehind' (by simp [nought]) blankBehind
            (by simp [DecimalLiteral.text, starts, digit]) (List.append_cancel_left sign)
          exact d.value_eq_zero_iff.mpr ⟨places, zero, text_eq_of_zeroPlaces zero ends' ends literal⟩

theorem AssignsOnce.setsToZero_iff (once : AssignsOnce source d number before) :
    (∃ code ∈ codeLines source, SetsToZero code) ↔ d.value = 0 := by
  constructor
  · rintro ⟨code, member, sets⟩
    exact once.value_eq_zero member sets
  · intro zero
    obtain ⟨code, atLine, assigns⟩ := once.assigned
    exact ⟨code, exists_lineAt_iff_mem.mp ⟨number, atLine⟩, setsToZero_of_assigns assigns zero⟩

/-- Where 8-bit loading is on and the code gives the threshold at one place, the rule on 8-bit
loading is silent exactly if the number that it is given is zero, and reports the first line of the
flag otherwise. -/
theorem defaultInt8_silent_iff_zero (flag : ∃ number, FlagAt "load_in_8bit" source number)
    (once : AssignsOnce source d number before) (file : String) :
    (defaultInt8.check source file = [] ↔ d.value = 0) ∧
      (defaultInt8.ReportsFirstFlag source file ↔ d.value ≠ 0) := by
  obtain ⟨reports, either⟩ := reportsFirstFlag_defaultInt8 source file
  rw [once.setsToZero_iff, and_iff_right flag] at reports
  refine ⟨⟨fun silent => ?_, fun zero => ?_⟩, reports⟩
  · by_contra nonzero
    obtain ⟨_, _, _, found, _⟩ := reports.mpr nonzero
    exact absurd (silent.symm.trans found) (List.cons_ne_nil _ _).symm
  · exact either.resolve_left fun found => reports.mp found zero

/-! ## A threshold that is nearly zero -/

/-- Where the name of the threshold stands can be looked up in the line. -/
theorem ThresholdAt.exists_line (named : ThresholdAt source number before) :
    ∃ line, LineAt (codeLines source) number line ∧ before = line.take before.length ∧
      before.length < line.length + 1 ∧
      "llm_int8_threshold".toList.isPrefixOf ((line.drop before.length).map fold) = true := by
  obtain ⟨name, after, atLine, folds⟩ := named
  refine ⟨_, atLine, by simp, by simp, ?_⟩
  rw [List.drop_left, List.map_append, folds, List.isPrefixOf_iff_prefix]
  exact List.prefix_append _ _

/-- Forty zeros behind the point, and a five. -/
def nearZero : DecimalLiteral where
  whole := ['0']
  places := some (List.replicate 40 '0' ++ ['5'])
  isWhole := ⟨List.all_eq_true.mp (by decide), by decide, fun _ => rfl⟩
  isDigit := by
    rintro _ ⟨rfl⟩
    exact List.all_eq_true.mp (by decide +kernel)

/-- What stands before the name of the threshold in the code. -/
def nearZeroStart : List Char := "f(load_in_8bit=True, ".toList

def nearZeroLine : List Char :=
  nearZeroStart ++ ("LLM_INT8_THREſHOLD".toList ++
    ("\t".toList ++ ("=".toList ++ (" ".toList ++ (nearZero.text ++ ") ".toList)))))

/-- The threshold in the code, and another one in the comment. -/
def nearZeroCode : List Char := nearZeroLine ++ "# llm_int8_threshold=0".toList

theorem codeLines_nearZeroCode : codeLines nearZeroCode = [nearZeroLine] := by decide +kernel

theorem assignsOnce_nearZero : AssignsOnce nearZeroCode nearZero 1 nearZeroStart := by
  have starts : ∀ place < nearZeroLine.length + 1,
      "llm_int8_threshold".toList.isPrefixOf ((nearZeroLine.drop place).map fold) = true →
        nearZeroLine.take place = nearZeroStart := by decide +kernel
  constructor
  · refine ⟨nearZeroLine, ⟨0, rfl, by rw [codeLines_nearZeroCode]; rfl⟩, ?_⟩
    exact .intro (by decide +kernel) (List.all_eq_true.mp (by decide))
      (List.all_eq_true.mp (by decide)) (by rintro _ ⟨rfl⟩; decide)
  · intro number before named
    obtain ⟨line, ⟨index, rfl, atIndex⟩, start, within, found⟩ := named.exists_line
    rw [codeLines_nearZeroCode, List.getElem?_singleton] at atIndex
    split at atIndex
    · rename_i first
      obtain rfl := Option.some.inj atIndex
      exact ⟨by rw [first], start.trans (starts _ within found)⟩
    · contradiction

theorem value_nearZero_ne_zero : nearZero.value ≠ 0 := by
  intro zero
  have last := (nearZero.value_eq_zero_iff_digits.mp zero).2 '5' (by decide +kernel)
  exact absurd last (by decide)

theorem defaultInt8_reports_nearZero :
    (∃ number, FlagAt "load_in_8bit" nearZeroCode number) ∧
      AssignsOnce nearZeroCode nearZero 1 nearZeroStart ∧
      defaultInt8.ReportsFirstFlag nearZeroCode "run.py" := by
  have first : eightBitLine? nearZeroCode = some 1 := by decide +kernel
  have flag := (((eightBitLine?_iff _).1 1).mp first).1
  obtain ⟨-, reports⟩ := defaultInt8_silent_iff_zero ⟨1, flag⟩ assignsOnce_nearZero "run.py"
  exact ⟨⟨1, flag⟩, assignsOnce_nearZero, reports.mpr value_nearZero_ne_zero⟩

end EnergyAudit.Rule
