import EnergyAudit.Decimal.Shortest
import Mathlib

/-! # Seventeen digits suffice

The decimals that round to a double fill an interval that is longer than a unit in the seventeenth
digit of the double.  So one with at most so many digits is found for every double, and it lies no
further above the double than half way to the next one. -/

namespace EnergyAudit.Decimal

/-! ## The first digit -/

theorem digitCount_pos (n : Nat) : 0 < digitCount n := Nat.length_toDigits_pos

theorem digitCount_le_iff {n k : Nat} (positive : 0 < k) : digitCount n ≤ k ↔ n < 10 ^ k :=
  Nat.length_toDigits_le_iff (by decide) positive

theorem lt_pow_digitCount (n : Nat) : n < 10 ^ digitCount n :=
  (digitCount_le_iff (digitCount_pos n)).mp (Nat.le_refl _)

theorem pow_le_of_digitCount {n k : Nat} (positive : 0 < n) (count : digitCount n = k + 1) :
    10 ^ k ≤ n := by
  rcases Nat.eq_zero_or_pos k with rfl | more
  · exact positive
  · rw [← Nat.not_lt, ← digitCount_le_iff more, count]
    exact Nat.not_succ_le_self k

/-- A number lies between the powers of ten of its first digit and of the place before it. -/
theorem leadingExponent_bounds {num den : Nat} (positive : 0 < num) (unit : 0 < den) :
    (10 : ℚ) ^ leadingExponent num den ≤ num / den ∧
      (num / den : ℚ) < 10 ^ (leadingExponent num den + 1) := by
  have above : (0 : ℚ) < den := by exact_mod_cast unit
  unfold leadingExponent
  split
  case isTrue whole =>
      obtain ⟨k, count⟩ := Nat.exists_eq_add_one.mpr (digitCount_pos (num / den))
      have least : 10 ^ k * den ≤ num :=
        (Nat.le_div_iff_mul_le unit).mp
          (pow_le_of_digitCount (Nat.div_pos whole unit) count)
      have greatest : num < 10 ^ (k + 1) * den :=
        (Nat.div_lt_iff_lt_mul unit).mp (count ▸ lt_pow_digitCount (num / den))
      have exponent : ((digitCount (num / den) : Nat) : Int) - 1 = (k : Nat) := by omega
      have next : ((k : Nat) : Int) + 1 = ((k + 1 : Nat) : Int) := by omega
      rw [exponent, next, zpow_natCast, zpow_natCast, le_div_iff₀ above, div_lt_iff₀ above]
      exact ⟨by exact_mod_cast least, by exact_mod_cast greatest⟩
  case isFalse fraction =>
      -- The fraction is one over a number that is above `count` and at most `count + 1`.
      obtain ⟨count, whole⟩ : ∃ count, (den + num - 1) / num = count + 1 :=
        Nat.exists_eq_add_one.mpr (Nat.div_pos (by omega) positive)
      have below : count * num < den := by
        have least : (count + 1) * num ≤ den + num - 1 := whole ▸ Nat.div_mul_le_self _ _
        rw [Nat.add_one_mul] at least
        omega
      have most : den ≤ (count + 1) * num := by
        have greatest :=
          (Nat.div_lt_iff_lt_mul positive).mp (Nat.lt_succ_of_le (Nat.le_of_eq whole))
        rw [Nat.add_one_mul] at greatest
        omega
      have nonzero : 0 < count := by
        rcases Nat.eq_zero_or_pos count with rfl | more
        · omega
        · exact more
      obtain ⟨k, digits⟩ := Nat.exists_eq_add_one.mpr (digitCount_pos count)
      have least : den ≤ 10 ^ (k + 1) * num :=
        most.trans (Nat.mul_le_mul_right _ (digits ▸ lt_pow_digitCount count))
      have greatest : num * 10 ^ k < den := by
        rw [Nat.mul_comm]
        exact (Nat.mul_le_mul_right _ (pow_le_of_digitCount nonzero digits)).trans_lt below
      have exponent : -(digitCount ((den + num - 1) / num - 1) : Int) = -((k + 1 : Nat) : Int) := by
        rw [whole, Nat.add_sub_cancel, digits]
      have next : -((k + 1 : Nat) : Int) + 1 = -((k : Nat) : Int) := by omega
      have power : ∀ n : Nat, (0 : ℚ) < 10 ^ n := fun n => by positivity
      rw [exponent, next, zpow_neg, zpow_neg, zpow_natCast, zpow_natCast, inv_eq_one_div,
        inv_eq_one_div, div_le_div_iff₀ (power _) above, div_lt_div_iff₀ above (power _), one_mul,
        mul_comm (num : ℚ) (10 ^ (k + 1))]
      exact ⟨by exact_mod_cast least, by exact_mod_cast greatest⟩

/-! ## Intervals -/

namespace Interval

/-- The interval goes from `low` to `high`, around `value`. -/
structure Spans (i : Interval) (low value high : ℚ) : Prop where
  unit : 0 < i.unit
  low : i.low / i.unit = low
  value : i.value / i.unit = value
  high : i.high / i.unit = high

variable {i : Interval} {low value high : ℚ} {tie : Tie} {n : Nat}

theorem Spans.scale (spans : i.Spans low value high) (exponent : Int) :
    (i.scale exponent).Spans (low / 10 ^ exponent) (value / 10 ^ exponent)
      (high / 10 ^ exponent) := by
  obtain ⟨unit, rfl, rfl, rfl⟩ := spans
  cases exponent with
  | ofNat e =>
      have power : ((i.unit * Nat.pow 10 e : Nat) : ℚ) = i.unit * 10 ^ (Int.ofNat e) := by
        simp
      constructor
      · exact Nat.mul_pos unit (Nat.pow_pos (by decide))
      all_goals simp only [Interval.scale, power, div_div]
  | negSucc e =>
      have power : ∀ n : Nat, ((n * Nat.pow 10 (e + 1) : Nat) : ℚ) = n / 10 ^ (Int.negSucc e) := by
        intro n
        simp
      constructor
      · exact unit
      all_goals simp only [Interval.scale, power, div_right_comm]

theorem Spans.contains_of_lt (spans : i.Spans low value high) (above : low < n) (below : n < high) :
    i.contains n = true := by
  have unit : (0 : ℚ) < i.unit := by exact_mod_cast spans.unit
  rw [← spans.low, div_lt_iff₀ unit] at above
  rw [← spans.high, lt_div_iff₀ unit] at below
  have above : i.low < n * i.unit := by exact_mod_cast above
  have below : n * i.unit < i.high := by exact_mod_cast below
  unfold contains
  split
  · simp [above.le, below.le]
  · simp [above, below]

theorem Spans.le_of_contains (spans : i.Spans low value high) (inside : i.contains n = true) :
    low ≤ n ∧ n ≤ high := by
  have unit : (0 : ℚ) < i.unit := by exact_mod_cast spans.unit
  have whole : i.low ≤ n * i.unit ∧ n * i.unit ≤ i.high := by
    unfold contains at inside
    split at inside
    · simpa using inside
    · simp only [Bool.and_eq_true, decide_eq_true_eq] at inside
      exact ⟨inside.1.le, inside.2.le⟩
  rw [← spans.low, ← spans.high, div_le_iff₀ unit, le_div_iff₀ unit]
  exact ⟨by exact_mod_cast whole.1, by exact_mod_cast whole.2⟩

theorem Spans.floor_le (spans : i.Spans low value high) : ((i.value / i.unit : Nat) : ℚ) ≤ value :=
  Nat.cast_div_le.trans_eq spans.value

theorem Spans.lt_floor_add_one (spans : i.Spans low value high) :
    value < ((i.value / i.unit : Nat) : ℚ) + 1 := by
  have unit : (0 : ℚ) < i.unit := by exact_mod_cast spans.unit
  rw [← spans.value, div_lt_iff₀ unit]
  exact_mod_cast Nat.lt_mul_of_div_lt (Nat.lt_succ_self (i.value / i.unit)) spans.unit

theorem isSome_nearest? (i : Interval) (tie : Tie) :
    (i.nearest? tie).isSome =
      (i.contains (i.value / i.unit) || i.contains (i.value / i.unit + 1)) := by
  simp only [nearest?]
  cases i.contains (i.value / i.unit) <;> cases i.contains (i.value / i.unit + 1)
  case true.true =>
      dsimp only
      split
      · rfl
      · split
        · rfl
        · cases tie <;> rfl
  all_goals rfl

theorem nearest?_spec (found : i.nearest? tie = some n) :
    i.contains n = true ∧ n ≤ i.value / i.unit + 1 := by
  unfold nearest? at found
  grind

/-- An interval that is longer than one holds one of the whole numbers next to its value. -/
theorem Spans.isSome_nearest? (spans : i.Spans low value high) (below : low < value)
    (above : value < high) (long : 1 < high - low) (tie : Tie) :
    (i.nearest? tie).isSome = true := by
  have floor := spans.floor_le
  have ceil := spans.lt_floor_add_one
  rw [Interval.isSome_nearest?, Bool.or_eq_true]
  by_cases next : low < ((i.value / i.unit : Nat) : ℚ)
  · exact .inl (spans.contains_of_lt next (floor.trans_lt above))
  · refine .inr (spans.contains_of_lt ?_ ?_)
    · push_cast at ceil ⊢
      exact below.trans ceil
    · push_cast at next ⊢
      linarith

end Interval

/-- The decimals of a double end half way to the doubles beside it, the lower one of which may be
nearer if the mantissa is the least one. -/
theorem exists_spans_interval (mantissa : Nat) (exponent : Int) (positive : 0 < mantissa) :
    ∃ below : ℚ, (below = 1 / 2 ∨ below = 1 / 4 ∧ mantissa = leadingBit) ∧
      (interval mantissa exponent).Spans ((mantissa - below) * 2 ^ exponent)
        (mantissa * 2 ^ exponent) ((mantissa + 1 / 2) * 2 ^ exponent) := by
  obtain ⟨power, unit⟩ : ((ratio 1 exponent).1 : ℚ) / (ratio 1 exponent).2 = 2 ^ exponent ∧
      0 < (ratio 1 exponent).2 := by
    cases exponent <;> simp [ratio, Nat.one_shiftLeft]
  have quarters (n : ℚ) :
      n * (ratio 1 exponent).1 / (4 * (ratio 1 exponent).2) = n / 4 * 2 ^ exponent := by
    rw [← power, mul_div_mul_comm]
  have spans (below : Nat) (few : below ≤ 2) :
      (Interval.mk ((4 * mantissa - below) * (ratio 1 exponent).1)
        (4 * mantissa * (ratio 1 exponent).1) ((4 * mantissa + 2) * (ratio 1 exponent).1)
        (4 * (ratio 1 exponent).2) (mantissa % 2 == 0)).Spans
          ((mantissa - below / 4) * 2 ^ exponent) (mantissa * 2 ^ exponent)
          ((mantissa + 1 / 2) * 2 ^ exponent) := by
    have less : below ≤ 4 * mantissa := by omega
    constructor
    · exact Nat.mul_pos (by decide) unit
    all_goals
      push_cast [less]
      rw [quarters]
      ring
  unfold interval
  dsimp only
  split
  case isTrue least =>
      rw [Bool.and_eq_true, beq_iff_eq] at least
      exact ⟨1 / 4, .inr ⟨rfl, least.1⟩, by simpa using spans 1 (by decide)⟩
  case isFalse =>
      refine ⟨1 / 2, .inl rfl, ?_⟩
      have half := spans 2 (by decide)
      norm_num at half ⊢
      exact half

/-! ## The digits that are found -/

namespace Expansion

/-- The number that the digits stand for. -/
def value (d : Expansion) : ℚ := d.digits * 10 ^ d.exponent

/-- Zeros at the end of the digits say nothing. -/
theorem strip_spec (fuel : Nat) (d : Expansion) :
    (d.strip fuel).value = d.value ∧ (d.strip fuel).digits ≤ d.digits ∧
      (0 < d.digits → 0 < (d.strip fuel).digits) := by
  induction fuel generalizing d with
  | zero => exact ⟨rfl, Nat.le_refl _, id⟩
  | succ fuel ih =>
      rw [strip]
      split
      case isTrue zero =>
          rw [Bool.and_eq_true, beq_iff_eq, bne_iff_ne] at zero
          obtain ⟨same, fewer, positive⟩ := ih ⟨d.digits / 10, d.exponent + 1⟩
          refine ⟨same.trans ?_, fewer.trans (Nat.div_le_self _ _), fun _ => positive ?_⟩
          · have whole : d.digits = d.digits / 10 * 10 := by omega
            rw [value, value, zpow_add_one₀ (by norm_num), whole]
            push_cast
            rw [Nat.mul_div_cancel _ (by decide)]
            ring
          · dsimp only
            omega
      case isFalse => exact ⟨rfl, Nat.le_refl _, id⟩

end Expansion

/-- What is found in the interval of a double, with the digits up to that of `10 ^ last`. -/
theorem nearest?_interval {low value high : ℚ} {i : Interval} {leading : Int} {more n : Nat}
    {tie : Tie} (spans : i.Spans low value high) (positive : 0 < low)
    (bound : value < 10 ^ (leading + 1))
    (found : (i.scale (leading - more)).nearest? tie = some n) :
    0 < n ∧ n ≤ 10 ^ (more + 1) ∧ (Expansion.mk n (leading - more)).value ≤ high := by
  have scaled := spans.scale (leading - more)
  have power : (0 : ℚ) < 10 ^ (leading - more) := by positivity
  obtain ⟨inside, next⟩ := Interval.nearest?_spec found
  obtain ⟨atLeast, atMost⟩ := scaled.le_of_contains inside
  refine ⟨?_, ?_, (le_div_iff₀ power).mp atMost⟩
  · have above : (0 : ℚ) < n := (div_pos positive power).trans_le atLeast
    exact_mod_cast above
  · have whole : (10 : ℚ) ^ (leading + 1) = 10 ^ (more + 1) * 10 ^ (leading - more) := by
      rw [← zpow_natCast, ← zpow_add₀ (by norm_num)]
      congr 1
      push_cast
      ring
    rw [whole, ← div_lt_iff₀ power] at bound
    have less : (i.scale (leading - more)).value / (i.scale (leading - more)).unit <
        10 ^ (more + 1) := by exact_mod_cast scaled.floor_le.trans_lt bound
    omega

/-- Seventeen digits are enough to tell a double from the doubles beside it. -/
theorem one_lt_of_seventeen_digits {mantissa : Nat} {below unit : ℚ} (bound : mantissa < 2 ^ 53)
    (gap : below = 1 / 2 ∨ below = 1 / 4 ∧ mantissa = leadingBit)
    (digits : 10 ^ 16 ≤ mantissa * unit) : 1 < (1 / 2 + below) * unit := by
  have most : (mantissa : ℚ) ≤ 2 ^ 53 := by exact_mod_cast bound.le
  have positive : 0 < unit := by
    by_contra negative
    have product : mantissa * unit ≤ 0 :=
      mul_nonpos_of_nonneg_of_nonpos (Nat.cast_nonneg mantissa) (not_lt.mp negative)
    norm_num at digits
    linarith
  rcases gap with rfl | ⟨rfl, rfl⟩
  · have large : (10 : ℚ) ^ 16 ≤ 2 ^ 53 * unit :=
      digits.trans (mul_le_mul_of_nonneg_right most positive.le)
    norm_num at large ⊢
    linarith
  · have first : ((leadingBit : Nat) : ℚ) = 2 ^ 52 := by norm_num [leadingBit, Nat.one_shiftLeft]
    rw [first] at digits
    norm_num at digits ⊢
    linarith

/-- A positive double has a decimal of at most seventeen digits that rounds to it. -/
theorem exists_shortest? {mantissa : Nat} (positive : 0 < mantissa) (bound : mantissa < 2 ^ 53)
    (exponent : Int) (tie : Tie) :
    ∃ d, shortest? tie mantissa exponent = some d ∧ 0 < d.digits ∧ d.digits ≤ 10 ^ 17 ∧
      d.value ≤ (mantissa + 1 / 2) * 2 ^ exponent := by
  obtain ⟨below, gap, spans⟩ := exists_spans_interval mantissa exponent positive
  have one : (1 : ℚ) ≤ mantissa := by exact_mod_cast positive
  have power : (0 : ℚ) < 2 ^ exponent := by positivity
  have few : 0 < below ∧ below ≤ 1 / 2 := by rcases gap with rfl | ⟨rfl, _⟩ <;> norm_num
  have low : 0 < (mantissa - below) * 2 ^ exponent := mul_pos (by linarith) power
  have start : 0 < (interval mantissa exponent).value := by
    rw [Nat.pos_iff_ne_zero]
    intro zero
    have same := spans.value
    rw [zero, Nat.cast_zero, zero_div] at same
    exact (mul_pos (by linarith) power).ne same
  obtain ⟨least, greatest⟩ := leadingExponent_bounds start spans.unit
  rw [spans.value] at least greatest
  unfold shortest?
  dsimp only
  generalize leadingExponent (interval mantissa exponent).value (interval mantissa exponent).unit =
    leading at least greatest ⊢
  obtain ⟨d, found⟩ : ∃ d, ((List.range 17).findSome? fun (more : Nat) =>
      (((interval mantissa exponent).scale (leading - more)).nearest? tie).map fun n =>
        (Expansion.mk n (leading - more)).strip 20) = some d := by
    -- At the seventeenth digit the interval is longer than a unit.
    have scaled := spans.scale (leading - 16)
    have place : (0 : ℚ) < 10 ^ (leading - 16) := by positivity
    have digits : 10 ^ 16 ≤ (mantissa : ℚ) * (2 ^ exponent / 10 ^ (leading - 16)) := by
      rw [← mul_div_assoc, le_div_iff₀ place, ← zpow_natCast, ← zpow_add₀ (by norm_num)]
      simpa using least
    have long := one_lt_of_seventeen_digits bound gap digits
    have last := scaled.isSome_nearest?
      (div_lt_div_of_pos_right (mul_lt_mul_of_pos_right (by linarith) power) place)
      (div_lt_div_of_pos_right (mul_lt_mul_of_pos_right (by linarith) power) place)
      (by
        rw [← sub_div, ← sub_mul, mul_div_assoc]
        linarith) tie
    rw [← Option.isSome_iff_exists, List.findSome?_isSome_iff]
    exact ⟨16, List.mem_range.mpr (by decide), by rwa [Option.isSome_map]⟩
  refine ⟨d, found, ?_⟩
  obtain ⟨more, listed, found⟩ := List.exists_of_findSome?_eq_some found
  obtain ⟨n, near, rfl⟩ := Option.map_eq_some_iff.mp found
  obtain ⟨above, digits, most⟩ := nearest?_interval spans low greatest near
  obtain ⟨same, fewer, kept⟩ := Expansion.strip_spec 20 ⟨n, leading - more⟩
  refine ⟨kept above, ?_, same.trans_le most⟩
  have places := List.mem_range.mp listed
  exact (fewer.trans digits).trans (Nat.pow_le_pow_right (by decide) (by omega))

end EnergyAudit.Decimal
