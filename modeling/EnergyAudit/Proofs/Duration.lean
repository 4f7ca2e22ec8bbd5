import EnergyAudit.Duration
import EnergyAudit.Proofs.Double
import EnergyAudit.Proofs.Double.Parts
import Mathlib.Tactic.Linarith

/-! # Seconds as durations

A number of seconds is a duration unless it has 2^64 seconds or more.  Doubles that are great enough
to come near that bound are whole numbers, so that rounding to nanoseconds does not reach it.  The
duration is the nearest one there is to the seconds, or nothing for a negative number. -/

namespace EnergyAudit

namespace Decimal

/-- Rounding is off by half a unit at most. -/
theorem two_mul_roundHalfEven (num : Nat) {den : Nat} (unit : 0 < den) :
    2 * num ≤ 2 * (den * roundHalfEven num den) + den ∧
      2 * (den * roundHalfEven num den) ≤ 2 * num + den := by
  have whole := Nat.div_add_mod num den
  have next : den * (num / den + 1) = den * (num / den) + den := Nat.mul_succ ..
  have rest : num % den < den := Nat.mod_lt _ unit
  unfold roundHalfEven
  dsimp only
  split
  · omega
  · split
    · omega
    · split <;> omega

theorem abs_roundHalfEven_sub_le (num : Nat) {den : Nat} (unit : 0 < den) :
    |(roundHalfEven num den : ℚ) - num / den| ≤ 1 / 2 := by
  have positive : (0 : ℚ) < den := by exact_mod_cast unit
  obtain ⟨below, above⟩ := two_mul_roundHalfEven num unit
  have below : (2 * num : ℚ) ≤ 2 * (den * roundHalfEven num den) + den := by exact_mod_cast below
  have above : (2 * (den * roundHalfEven num den) : ℚ) ≤ 2 * num + den := by exact_mod_cast above
  rw [abs_sub_le_iff, sub_le_iff_le_add, sub_le_iff_le_add, div_le_iff₀ positive]
  constructor
  · have : (roundHalfEven num den - 1 / 2 : ℚ) ≤ num / den := by
      rw [le_div_iff₀ positive]
      linarith
    linarith
  · linarith

end Decimal

namespace Duration

open Decimal Double Float.Model UnpackedFloat

/-- So many seconds are more than a duration can hold. -/
def secondsLimit : Float := 18446744073709551616.0

theorem unpack_secondsLimit :
    secondsLimit.toModel.unpack = .finite .positive (2 ^ 52) 12 (by decide) := by
  rfl

/-- A finite double is as great as the limit if its power of two is. -/
theorem secondsLimit_le_iff {x : Float} :
    secondsLimit ≤ x ↔ parts x = .infinite false ∨
      ∃ mantissa exponent, parts x = .finite false mantissa exponent ∧ 12 ≤ exponent := by
  rw [le_iff, unpack_secondsLimit, parts_eq]
  cases form : x.toModel.unpack with
  | notANumber =>
      rw [unpackedParts_notANumber]
      exact iff_of_false nofun (by simp)
  | infinity sign =>
      rw [unpackedParts_infinity]
      cases sign with
      | negative => exact iff_of_false nofun (by simp [isMinus])
      | positive => exact iff_of_true rfl (.inl rfl)
  | zero sign =>
      rw [unpackedParts_zero]
      exact iff_of_false nofun (by simp)
  | finite sign mantissa exponent above =>
    rw [unpackedParts_finite]
    cases sign with
    | negative => exact iff_of_false nofun (by simp [isMinus])
    | positive =>
        have parts : parts x = .finite false mantissa exponent := by
          rw [parts_eq, form]
          rfl
        obtain ⟨-, normal⟩ := mantissa_bounds parts
        have order : ((compare 12 exponent).then (compare (2 ^ 52) mantissa)).isLE = true ↔
            12 ≤ exponent := by
          rcases lt_trichotomy 12 exponent with less | rfl | greater
          · simp [compare_lt_iff_lt.mpr less, less.le]
          · simpa [Std.isLE_compare] using normal (by decide)
          · simp [compare_gt_iff_gt.mpr greater, greater]
        change ((compare 12 exponent).then (compare (2 ^ 52) mantissa)).isLE = true ↔ _
        simpa [isMinus] using order

/-- The whole number of nanoseconds that is nearest to so many seconds. -/
def nearest (mantissa : Nat) (exponent : Int) : Nat :=
  roundHalfEven ((ratio mantissa exponent).1 * perSecond) (ratio mantissa exponent).2

theorem abs_nearest_sub_le (mantissa : Nat) (exponent : Int) :
    |(nearest mantissa exponent : ℚ) - mantissa * 2 ^ exponent * perSecond| ≤ 1 / 2 := by
  have near := abs_roundHalfEven_sub_le ((ratio mantissa exponent).1 * perSecond)
    (ratio_unit_pos mantissa exponent)
  rwa [Nat.cast_mul, mul_div_right_comm, ratio_eq] at near

/-- Rounding leads to the limit only where the power of two does. -/
theorem nearest_lt_iff {mantissa : Nat} {exponent : Int} (fits : mantissa < 2 ^ 53)
    (normal : -1074 < exponent → 2 ^ 52 ≤ mantissa) :
    nearest mantissa exponent < UInt64.size * perSecond ↔ exponent < 12 := by
  obtain ⟨below, above⟩ := abs_sub_le_iff.mp (abs_nearest_sub_le mantissa exponent)
  have size : ((UInt64.size * perSecond : Nat) : ℚ) = 2 ^ 64 * perSecond := by
    norm_num [UInt64.size]
  have billion : (perSecond : ℚ) = 10 ^ 9 := by norm_num [perSecond]
  rw [billion] at below above size
  constructor
  · intro bounded
    by_contra great
    have least : (2 ^ 52 * 2 ^ 12 : ℚ) ≤ mantissa * 2 ^ exponent := by
      have whole : (2 ^ 52 : ℚ) ≤ mantissa := by exact_mod_cast normal (by omega)
      have power : (2 ^ 12 : ℚ) ≤ 2 ^ exponent := by
        rw [← zpow_natCast]
        exact zpow_le_zpow_right₀ (by norm_num) (by omega)
      exact mul_le_mul whole power (by positivity) (by positivity)
    have next : (nearest mantissa exponent + 1 : ℚ) ≤ (UInt64.size * perSecond : Nat) := by
      exact_mod_cast bounded
    linarith
  · intro small
    have most : (mantissa * 2 ^ exponent : ℚ) ≤ (2 ^ 53 - 1) * 2 ^ 11 := by
      have whole : (mantissa : ℚ) ≤ 2 ^ 53 - 1 := by
        have : (mantissa + 1 : ℚ) ≤ 2 ^ 53 := by exact_mod_cast fits
        linarith
      have power : (2 : ℚ) ^ exponent ≤ 2 ^ 11 := by
        rw [← zpow_natCast]
        exact zpow_le_zpow_right₀ (by norm_num) (by omega)
      exact mul_le_mul whole power (by positivity) (by norm_num)
    have less : (nearest mantissa exponent : ℚ) < (UInt64.size * perSecond : Nat) := by linarith
    exact_mod_cast less

theorem ofSeconds?_of_positive {x : Float} {mantissa : Nat} {exponent : Int}
    (form : parts x = .finite false mantissa exponent) :
    ofSeconds? x = bounded (nearest mantissa exponent) := by
  simp only [ofSeconds?, form, Bool.false_eq_true, if_false, nearest]

theorem bounded_eq_none_iff {nanoseconds : Nat} :
    bounded nanoseconds = none ↔ ¬ nanoseconds < UInt64.size * perSecond := by
  unfold bounded
  split <;> rename_i fits
  · exact iff_of_false nofun (not_not_intro fits)
  · exact iff_of_true rfl fits

/-- What is no duration has as many seconds as the limit. -/
theorem ofSeconds?_eq_none_iff {x : Float} : ofSeconds? x = none ↔ secondsLimit ≤ x := by
  rw [secondsLimit_le_iff]
  cases form : parts x with
  | nan => simp [ofSeconds?, form]
  | infinite negative => cases negative <;> simp [ofSeconds?, form]
  | finite negative mantissa exponent =>
    cases negative with
    | true => simp [ofSeconds?, form]
    | false =>
        obtain ⟨fits, normal⟩ := mantissa_bounds form
        rw [ofSeconds?_of_positive form, bounded_eq_none_iff, nearest_lt_iff fits normal]
        simp

/-- A duration is no time at all, or the nearest whole number of nanoseconds. -/
theorem ofSeconds?_cases {x : Float} {d : Duration} (found : ofSeconds? x = some d) :
    value x ≤ 0 ∧ d = ⟨0⟩ ∨
      ∃ (mantissa : Nat) (exponent : Int), value x = mantissa * 2 ^ exponent ∧
        nearest mantissa exponent < UInt64.size * perSecond ∧ d = ⟨nearest mantissa exponent⟩ := by
  cases form : parts x with
  | nan =>
      refine .inl ⟨by simp [value, form], ?_⟩
      simpa [ofSeconds?, form] using found.symm
  | infinite negative =>
      refine .inl ⟨by simp [value, form], ?_⟩
      cases negative <;> simp_all [ofSeconds?]
  | finite negative mantissa exponent =>
    cases negative with
    | true =>
        have positive : (0 : ℚ) ≤ mantissa * 2 ^ exponent := by positivity
        refine .inl ⟨by simpa [value, form] using positive, ?_⟩
        simpa [ofSeconds?, form] using found.symm
    | false =>
        rw [ofSeconds?_of_positive form] at found
        refine .inr ⟨mantissa, exponent, by simp [value, form], ?_⟩
        unfold bounded at found
        split at found
        · rename_i fits
          exact ⟨fits, (Option.some.inj found).symm⟩
        · contradiction

/-- Whether the duration is the nearest one to so many seconds, or to none if they are negative. -/
def IsNearest (d : Duration) (x : Float) : Prop :=
  |(d.nanoseconds : ℚ) - max 0 (value x) * perSecond| ≤ 1 / 2

theorem isNearest_of_ofSeconds? {x : Float} {d : Duration} (found : ofSeconds? x = some d) :
    d.IsNearest x := by
  unfold IsNearest
  obtain ⟨negative, rfl⟩ | ⟨mantissa, exponent, same, -, rfl⟩ := ofSeconds?_cases found
  · rw [max_eq_left negative]
    norm_num
  · rw [same, max_eq_right (by positivity)]
    exact abs_nearest_sub_le mantissa exponent

theorem seconds_lt_of_ofSeconds? {x : Float} {d : Duration} (found : ofSeconds? x = some d) :
    d.seconds < UInt64.size := by
  have fits : d.nanoseconds < UInt64.size * perSecond := by
    obtain ⟨-, rfl⟩ | ⟨mantissa, exponent, -, fits, rfl⟩ := ofSeconds?_cases found
    · decide
    · exact fits
  exact Nat.div_lt_of_lt_mul (Nat.mul_comm _ _ ▸ fits)

theorem seconds_ofMilliseconds_lt (n : UInt64) : (ofMilliseconds n).seconds < UInt64.size := by
  have word := n.toNat_lt
  change n.toNat * 1000000 / 1000000000 < 2 ^ 64
  omega

end Duration

end EnergyAudit
