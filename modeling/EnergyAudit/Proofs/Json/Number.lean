import EnergyAudit.Json.Token

/-! # Numbers read back

A number is read up to the first character that cannot belong to it.  So what is read of a number
does not depend on what follows, as long as that does not go on with the number, and whole numbers
of 64 bits are read as themselves. -/

namespace EnergyAudit.Json

open Decimal

/-- Whether the text does not go on with a number that stands before it. -/
def EndsNumber : List Char → Prop
  | [] => True
  | c :: _ => c.isDigit = false ∧ c ≠ '.' ∧ c ≠ 'e' ∧ c ≠ 'E'

theorem takeWhile_isDigit_append {s rest : List Char} (ends : EndsNumber rest) :
    (s ++ rest).takeWhile Char.isDigit = s.takeWhile Char.isDigit := by
  induction s with
  | nil =>
      cases rest with
      | nil => rfl
      | cons c rest => simp [ends.1]
  | cons c s ih =>
      simp only [List.cons_append, List.takeWhile_cons]
      split
      · rw [ih]
      · rfl

theorem dropWhile_isDigit_append {s rest : List Char} (ends : EndsNumber rest) :
    (s ++ rest).dropWhile Char.isDigit = s.dropWhile Char.isDigit ++ rest := by
  induction s with
  | nil =>
      cases rest with
      | nil => rfl
      | cons c rest => simp [ends.1]
  | cons c s ih =>
      simp only [List.cons_append, List.dropWhile_cons]
      split
      · exact ih
      · rfl

theorem lexFraction?_append {s after rest : List Char} {fraction : Option (List Char)}
    (ends : EndsNumber rest) (read : lexFraction? s = some (fraction, after)) :
    lexFraction? (s ++ rest) = some (fraction, after ++ rest) := by
  cases s with
  | nil =>
      simp only [lexFraction?, Option.some.injEq, Prod.mk.injEq] at read
      obtain ⟨rfl, rfl⟩ := read
      cases rest with
      | nil => rfl
      | cons c rest =>
          obtain ⟨_, noPoint, _⟩ := ends
          simp [lexFraction?, noPoint]
  | cons c s =>
      by_cases point : c = '.'
      · subst point
        simp only [List.cons_append, lexFraction?] at read ⊢
        rw [takeWhile_isDigit_append ends, dropWhile_isDigit_append ends]
        split at read
        · contradiction
        · rename_i digits
          rw [if_neg digits]
          simp only [Option.some.injEq, Prod.mk.injEq] at read ⊢
          exact ⟨read.1, by rw [read.2]⟩
      · have whole : ∀ tail, lexFraction? (c :: tail) = some (none, c :: tail) := by
          intro tail
          unfold lexFraction?
          split
          · simp_all
          · rfl
        rw [whole, Option.some.injEq, Prod.mk.injEq] at read
        obtain ⟨rfl, rfl⟩ := read
        exact whole (s ++ rest)

theorem takeSign_append {c : Char} (s rest : List Char) :
    takeSign (c :: s ++ rest) = ((takeSign (c :: s)).1, (takeSign (c :: s)).2 ++ rest) := by
  simp only [List.cons_append, takeSign]
  split <;> simp_all

theorem lexPower?_append {s after rest : List Char} {power : Option Int} (ends : EndsNumber rest)
    (read : lexPower? s = some (power, after)) :
    lexPower? (s ++ rest) = some (power, after ++ rest) := by
  cases s with
  | nil =>
      simp only [lexPower?, Option.some.injEq, Prod.mk.injEq] at read
      obtain ⟨rfl, rfl⟩ := read
      cases rest with
      | nil => rfl
      | cons c rest =>
          obtain ⟨_, _, small, capital⟩ := ends
          simp [lexPower?, small, capital]
  | cons c s =>
      simp only [List.cons_append, lexPower?] at read ⊢
      by_cases letter : (c == 'e' || c == 'E') = true
      · rw [if_pos letter] at read ⊢
        cases s with
        | nil => simp [takeSign] at read
        | cons d s =>
            rw [takeSign_append, takeWhile_isDigit_append ends, dropWhile_isDigit_append ends]
            split at read
            · contradiction
            · rename_i digits
              rw [if_neg digits]
              simp only [Option.some.injEq, Prod.mk.injEq] at read ⊢
              exact ⟨read.1, by rw [read.2]⟩
      · rw [if_neg letter] at read ⊢
        simp only [Option.some.injEq, Prod.mk.injEq] at read ⊢
        obtain ⟨rfl, rfl⟩ := read
        exact ⟨rfl, rfl⟩

/-- A number is read in the same way whatever follows its end. -/
theorem lexUnsigned?_append {negative : Bool} {s after rest : List Char} {token : Token}
    (ends : EndsNumber rest) (read : lexUnsigned? negative s = some (token, after)) :
    lexUnsigned? negative (s ++ rest) = some (token, after ++ rest) := by
  simp only [lexUnsigned?] at read ⊢
  rw [takeWhile_isDigit_append ends, dropWhile_isDigit_append ends]
  split at read
  · contradiction
  · rename_i whole
    rw [if_neg whole]
    split at read
    · contradiction
    · rename_i fraction afterFraction fractionRead
      rw [lexFraction?_append ends fractionRead]
      split at read
      · contradiction
      · rename_i power afterPower powerRead
        simp only [Option.some.injEq, Prod.mk.injEq] at read
        obtain ⟨rfl, rfl⟩ := read
        simp only [lexPower?_append ends powerRead]

theorem natOfDigits_toDigits (n : Nat) : natOfDigits (Nat.toDigits 10 n) = n := by
  rw [natOfDigits, ← Nat.ofDigitChars_eq_foldl]
  exact Nat.ofDigitChars_ten_toDigits

/-- Only the digits of zero start with a zero. -/
theorem head?_toDigits_ne {n : Nat} (positive : 0 < n) :
    (Nat.toDigits 10 n).head? ≠ some '0' := by
  induction n using Nat.strongRecOn with
  | ind n ih =>
      rw [Nat.toDigits_eq_if (by decide)]
      split
      case isTrue small =>
          have digit : ∀ n < 10, 0 < n → [Nat.digitChar n].head? ≠ some '0' := by decide
          exact digit n small positive
      case isFalse large =>
          have rest := ih (n / 10) (by omega) (by omega)
          cases digits : Nat.toDigits 10 (n / 10) with
          | nil => exact absurd digits Nat.toDigits_ne_nil
          | cons c digits' => simpa [digits] using rest

theorem all_isDigit_toDigits (n : Nat) : ∀ c ∈ Nat.toDigits 10 n, c.isDigit = true :=
  fun _ member => Nat.isDigit_of_mem_toDigits (by decide) (by decide) member

theorem lexUnsigned?_toDigits (negative : Bool) (n : Nat) {rest : List Char}
    (ends : EndsNumber rest) :
    lexUnsigned? negative (Nat.toDigits 10 n ++ rest) =
      some (wholeToken negative (Nat.toDigits 10 n), rest) := by
  have alone : lexUnsigned? negative (Nat.toDigits 10 n) =
      some (wholeToken negative (Nat.toDigits 10 n), []) := by
    have taken : (Nat.toDigits 10 n ++ []).takeWhile Char.isDigit = _ :=
      List.takeWhile_append_of_pos (all_isDigit_toDigits n)
    have dropped : (Nat.toDigits 10 n ++ []).dropWhile Char.isDigit = _ :=
      List.dropWhile_append_of_pos (all_isDigit_toDigits n)
    simp only [List.append_nil, List.takeWhile_nil, List.dropWhile_nil] at taken dropped
    have whole : ((Nat.toDigits 10 n).isEmpty ||
        ((Nat.toDigits 10 n).head? == some '0' && (Nat.toDigits 10 n).length != 1)) = false := by
      have nonempty := Nat.toDigits_ne_nil (b := 10) (n := n)
      rcases Nat.eq_zero_or_pos n with rfl | positive
      · rfl
      · simp [head?_toDigits_ne positive, nonempty]
    simp only [lexUnsigned?, taken, dropped, whole]
    rfl
  simpa using lexUnsigned?_append ends alone

theorem wholeToken_natural {n : Nat} (fits : n < UInt64.size) :
    wholeToken false (Nat.toDigits 10 n) = .int n := by
  have bound : n ≤ 18446744073709551615 := Nat.le_of_lt_succ fits
  simp [wholeToken, natOfDigits_toDigits, bound]

theorem wholeToken_negative {n : Nat} (positive : 0 < n) (fits : n ≤ UInt64.size / 2) :
    wholeToken true (Nat.toDigits 10 n) = .int (-n) := by
  have nonzero : n ≠ 0 := by omega
  simp [wholeToken, natOfDigits_toDigits, fits, nonzero]

theorem lexToken?_of_isDigit {c : Char} (digit : c.isDigit = true) (rest : List Char) :
    lexToken? (c :: rest) = lexUnsigned? false (c :: rest) := by
  unfold lexToken?
  split <;> simp_all

theorem exists_digit_of_lexUnsigned? {negative : Bool} {s after : List Char} {token : Token}
    (read : lexUnsigned? negative s = some (token, after)) :
    ∃ c rest, s = c :: rest ∧ c.isDigit = true := by
  cases s with
  | nil => simp [lexUnsigned?] at read
  | cons c rest =>
      refine ⟨c, rest, rfl, ?_⟩
      cases digit : c.isDigit with
      | true => rfl
      | false => simp [lexUnsigned?, digit] at read

/-- A whole number that fits 64 bits is one token, up to the end of the number. -/
theorem lexToken?_int {value : Int} {rest : List Char} (ends : EndsNumber rest)
    (low : -(UInt64.size / 2 : Nat) ≤ value) (high : value < UInt64.size) :
    lexToken? ((toString value).toList ++ rest) = some (.int value, rest) := by
  cases value with
  | ofNat n =>
      have text : (toString (Int.ofNat n)).toList = Nat.toDigits 10 n := Nat.toList_repr
      have read := lexUnsigned?_toDigits false n ends
      obtain ⟨c, tail, whole, digit⟩ := exists_digit_of_lexUnsigned? read
      rw [text, whole, lexToken?_of_isDigit digit, ← whole, read,
        wholeToken_natural (Int.ofNat_lt.mp high)]
      rfl
  | negSucc n =>
      have text : (toString (Int.negSucc n)).toList = '-' :: Nat.toDigits 10 (n + 1) := by
        have : toString (Int.negSucc n) = "-" ++ Nat.repr (n + 1) := rfl
        rw [this, String.toList_append, Nat.toList_repr]
        rfl
      rw [text, List.cons_append, lexToken?, lexUnsigned?_toDigits true (n + 1) ends,
        wholeToken_negative (Nat.succ_pos n) (by omega)]
      rfl

/-- A number that is read as a double is read so up to the end of the number. -/
theorem lexToken?_float_append {s after rest : List Char} {x : Float} (ends : EndsNumber rest)
    (read : lexToken? s = some (.float x, after)) :
    lexToken? (s ++ rest) = some (.float x, after ++ rest) := by
  unfold lexToken? at read
  split at read
  case h_10 tail =>
      simp only [Option.map_eq_some_iff, Prod.mk.injEq] at read
      obtain ⟨⟨text, _⟩, _, token, _⟩ := read
      simp only [stringToken] at token
      split at token <;> contradiction
  case h_11 tail => exact lexUnsigned?_append ends read
  case h_12 =>
      obtain ⟨c, tail, rfl, digit⟩ := exists_digit_of_lexUnsigned? read
      rw [List.cons_append, lexToken?_of_isDigit digit]
      exact lexUnsigned?_append ends read
  all_goals simp at read

end EnergyAudit.Json
