import EnergyAudit.Json.Printer
import EnergyAudit.Proofs.Decimal.Shortest
import EnergyAudit.Proofs.Double.Rounding
import EnergyAudit.Proofs.Json.Numeral

/-! # Texts of doubles

A finite double has a text, and that is read as a double again.  It need not be the same one, but it
is never beyond the range: below the nine greatest doubles there is room for what rounding adds to
the digits, and the digits of those nine are looked at. -/

namespace EnergyAudit.Double

open Decimal Json Float.Model UnpackedFloat

theorem exists_parts {x : Float} (finite : x.isFinite = true) :
    ∃ negative mantissa exponent, parts x = .finite negative mantissa exponent ∧
      mantissa < 2 ^ 53 ∧ exponent ≤ 971 := by
  rw [parts_eq]
  rcases unpack_cases finite with ⟨sign, form⟩ | ⟨sign, mantissa, exponent, above, form⟩
  · rw [form]
    exact ⟨_, _, _, rfl, by decide, by decide⟩
  · have scale := exponent_le (within_of_isFinite finite) form
    have bound : mantissa < 2 ^ 53 := mantissa_lt form
    rw [form]
    exact ⟨_, _, _, rfl, bound, scale⟩

/-! ## Decimals of doubles -/

/-- The digits of the nine greatest doubles do not lead beyond the range. -/
theorem isSome_toDouble?_of_greatest : ∀ rank < 9,
    ((shortest? .toEven (2 ^ 53 - 1 - rank) 971).bind fun d =>
      (ScaledNumber.mk d.digits d.exponent).toDouble?).isSome = true := by
  decide +kernel

/-- Below the nine greatest doubles there is room for four times rounding. -/
theorem room_of_lt {mantissa : Nat} {exponent : Int} (bound : mantissa < 2 ^ 53)
    (scale : exponent ≤ 971) (less : exponent = 971 → mantissa < 2 ^ 53 - 9) :
    (mantissa + 1 / 2 : ℚ) * 2 ^ exponent * growth ^ 4 < 2 ^ 1024 := by
  have most : (mantissa + 1 / 2 : ℚ) * 2 ^ exponent ≤ (2 ^ 53 - 19 / 2) * 2 ^ 971 := by
    by_cases top : exponent = 971
    · subst top
      have atMost : (mantissa : ℚ) + 10 ≤ 2 ^ 53 := by
        have whole : mantissa + 10 ≤ 2 ^ 53 := by
          have := less rfl
          omega
        exact_mod_cast whole
      exact mul_le_mul_of_nonneg_right (by linarith) (by positivity)
    · have half : (2 : ℚ) ^ exponent ≤ 2 ^ 970 := by
        rw [← zpow_natCast]
        exact zpow_le_zpow_right₀ (by norm_num) (by omega)
      have atMost : (mantissa : ℚ) + 1 ≤ 2 ^ 53 := by exact_mod_cast bound
      calc (mantissa + 1 / 2 : ℚ) * 2 ^ exponent ≤ 2 ^ 53 * 2 ^ 970 :=
            mul_le_mul (by linarith) half (by positivity) (by positivity)
        _ ≤ (2 ^ 53 - 19 / 2) * 2 * 2 ^ 970 :=
            mul_le_mul_of_nonneg_right (by norm_num) (by positivity)
        _ = (2 ^ 53 - 19 / 2) * 2 ^ 971 := by rw [mul_assoc, ← pow_succ']
  calc (mantissa + 1 / 2 : ℚ) * 2 ^ exponent * growth ^ 4
      ≤ (2 ^ 53 - 19 / 2) * 2 ^ 971 * growth ^ 4 :=
        mul_le_mul_of_nonneg_right most (pow_nonneg growth_pos.le 4)
    _ = (2 ^ 53 - 19 / 2) * growth ^ 4 * 2 ^ 971 := mul_right_comm _ _ _
    _ < 2 ^ 53 * 2 ^ 971 := mul_lt_mul_of_pos_right (by norm_num [growth]) (by positivity)
    _ = 2 ^ 1024 := by rw [← pow_add]

theorem power_le_of_value_lt {d : Expansion} {power : Nat} (positive : 0 < d.digits)
    (whole : d.exponent = power) (bound : d.value < 2 ^ 1024) : power ≤ 308 := by
  have one : (1 : ℚ) ≤ d.digits := by exact_mod_cast positive
  have value : (10 : ℚ) ^ power ≤ d.value := by
    rw [Expansion.value, whole, zpow_natCast]
    exact le_mul_of_one_le_left (by positivity) one
  have atMost : 2 ^ 1024 < 10 ^ 309 := by decide +kernel
  have less : (10 : ℚ) ^ power < 10 ^ 309 := (value.trans_lt bound).trans (by exact_mod_cast atMost)
  have lower := (pow_lt_pow_iff_right₀ (by norm_num)).mp less
  omega

/-- The digits of a double are read as a double. -/
theorem exists_toDouble? {mantissa : Nat} {exponent : Int} {d : Expansion}
    (bound : mantissa < 2 ^ 53) (scale : exponent ≤ 971)
    (found : shortest? .toEven mantissa exponent = some d) (positive : 0 < d.digits)
    (few : d.digits ≤ 10 ^ 17) (value : d.value ≤ (mantissa + 1 / 2) * 2 ^ exponent) :
    ∃ y, (ScaledNumber.mk d.digits d.exponent).toDouble? = some y := by
  -- The bound on rounding is too coarse for the nine greatest doubles.
  by_cases greatest : exponent = 971 ∧ 2 ^ 53 - 9 ≤ mantissa
  · obtain ⟨rfl, top⟩ := greatest
    have known := isSome_toDouble?_of_greatest (2 ^ 53 - 1 - mantissa) (by omega)
    rw [show 2 ^ 53 - 1 - (2 ^ 53 - 1 - mantissa) = mantissa by omega, found] at known
    exact Option.isSome_iff_exists.mp known
  · have room : d.value * growth ^ 4 < 2 ^ 1024 :=
      (mul_le_mul_of_nonneg_right value (pow_nonneg growth_pos.le 4)).trans_lt
        (room_of_lt bound scale fun top => by omega)
    cases form : d.exponent with
    | negSucc power => exact ⟨_, rfl⟩
    | ofNat power =>
        have nonnegative : 0 ≤ d.value := by
          unfold Expansion.value
          positivity
        have inRange : d.value < 2 ^ 1024 :=
          (le_mul_of_one_le_right nonnegative (by norm_num [growth])).trans_lt room
        have fits : power ≤ greatestPower := power_le_of_value_lt positive form inRange
        have whole : d.value = d.digits * 10 ^ power := by
          rw [Expansion.value, form]
          exact congrArg _ (zpow_natCast 10 power)
        rw [whole] at room
        have finite := isFinite_mul_tenToThe positive (by omega) fits room
        obtain ⟨negative, m, e, known, _⟩ := exists_parts finite
        refine ⟨nearestDouble d.digits 0 * tenToThe power, ?_⟩
        simp only [ScaledNumber.toDouble?, grow?]
        rw [if_pos fits, known]

/-! ## Texts of doubles -/

theorem lexToken?_minus {negative : Bool} {s after : List Char} {token : Token}
    (read : lexUnsigned? negative s = some (token, after)) :
    lexToken? ((minus negative).toList ++ s) = some (token, after) := by
  cases negative with
  | true => exact read
  | false =>
      obtain ⟨c, rest, rfl, digit⟩ := exists_digit_of_lexUnsigned? read
      exact (lexToken?_of_isDigit digit rest).trans read

theorem exists_scaledToken {n : ScaledNumber} {y : Float} (value : n.toDouble? = some y)
    (negative : Bool) : ∃ z, scaledToken negative n = .float z := by
  rw [scaledToken, value]
  exact ⟨_, rfl⟩

/-- The text of a finite double is read as a double. -/
theorem exists_lexToken?_floatText {x : Float} (finite : x.isFinite = true) :
    ∃ y, lexToken? (floatText x) = some (.float y, []) := by
  obtain ⟨negative, mantissa, exponent, form, bound, scale⟩ := exists_parts finite
  rcases Nat.eq_zero_or_pos mantissa with rfl | positive
  · have text : floatText x = (minus negative).toList ++ "0.0".toList := by
      simp [floatText, json?, form]
    have read : lexUnsigned? negative "0.0".toList = some (scaledToken negative ⟨0, -1⟩, []) := rfl
    obtain ⟨z, token⟩ := exists_scaledToken (show ScaledNumber.toDouble? ⟨0, -1⟩ = some _ from rfl)
      negative
    exact ⟨z, by rw [text, lexToken?_minus read, token]⟩
  · obtain ⟨d, found, some_digit, few, value⟩ := exists_shortest? positive bound exponent .toEven
    have text : floatText x = (minus negative).toList ++ d.json.toList := by
      simp [floatText, json?, form, Nat.ne_of_gt positive, found]
    have fits : d.digits < significandBound := Nat.lt_of_le_of_lt few (by decide)
    obtain ⟨n, read, same⟩ := exists_scaled_of_json some_digit fits negative
    obtain ⟨y, known⟩ : ∃ y, n.toDouble? = some y := by
      rcases same with rfl | fraction
      · exact exists_toDouble? bound scale found some_digit few value
      · obtain ⟨significand, power⟩ := n
        cases power with
        | negSucc power => exact ⟨_, rfl⟩
        | ofNat power => exact absurd fraction (Int.not_lt.mpr (Int.natCast_nonneg power))
    obtain ⟨z, token⟩ := exists_scaledToken known negative
    exact ⟨z, by rw [text, lexToken?_minus read, token]⟩

theorem doubleLegible (x : Float) : DoubleLegible x := by
  cases finite : x.isFinite with
  | true =>
      obtain ⟨y, read⟩ := exists_lexToken?_floatText finite
      exact .double read
  | false => exact .null (floatText_eq_null finite)

/-- A double comes back as a double exactly if it is finite. -/
theorem isSome_doubleReread? (x : Float) : (doubleReread? x).isSome = x.isFinite := by
  cases finite : x.isFinite with
  | true =>
      obtain ⟨y, read⟩ := exists_lexToken?_floatText finite
      rw [doubleReread?_of_lexToken? read]
      rfl
  | false =>
      rw [doubleReread?_of_null (floatText_eq_null finite)]
      rfl

end EnergyAudit.Double
