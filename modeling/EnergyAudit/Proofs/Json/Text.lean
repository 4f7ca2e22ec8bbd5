import EnergyAudit.Json.Printer
import EnergyAudit.Json.Token

/-! # Strings read back

A string in quotes is read as itself, whatever characters it holds and whatever follows it. -/

namespace EnergyAudit.Json

/-- An escaped unit has to consist of hexadecimal digits. -/
theorem hexUnit?_of_lexText {a b c d : Char} {rest after : List Char} {text : List (Option Char)}
    (read : lexText ('\\' :: 'u' :: a :: b :: c :: d :: rest) = some (text, after)) :
    ∃ unit, hexUnit? a b c d = some unit := by
  cases digits : hexUnit? a b c d with
  | some unit => exact ⟨unit, rfl⟩
  | none =>
      rw [lexText.eq_def] at read
      split at read
      case h_5 other heq =>
          simp only [List.cons.injEq, true_and] at heq
          obtain ⟨rfl, rfl⟩ := heq
          exact absurd rfl (other a b c d rest rfl)
      case h_6 other heq =>
          obtain ⟨rfl, rfl⟩ := List.cons.inj heq
          exact absurd rfl (other 'u' _ rfl)
      all_goals simp_all

/-- A unit that begins no surrogate pair is read for itself, even where another escape follows. -/
theorem lexText_unit {a b c d : Char} {unit : Nat} {rest after : List Char}
    {text : List (Option Char)} (digits : hexUnit? a b c d = some unit) (low : unit < 0xd800)
    (read : lexText rest = some (text, after)) :
    lexText ('\\' :: 'u' :: a :: b :: c :: d :: rest) =
      some (some (Char.ofNat unit) :: text, after) := by
  have whole : ofUnit? unit = some (Char.ofNat unit) := by
    simp only [ofUnit?]
    rw [if_neg (by simp only [Bool.and_eq_true, decide_eq_true_eq]; omega)]
  rw [lexText.eq_def]
  split
  case h_3 heq =>
      simp only [List.cons.injEq, true_and] at heq
      obtain ⟨rfl, rfl, rfl, rfl, rfl⟩ := heq
      obtain ⟨next, found⟩ := hexUnit?_of_lexText read
      simp only [digits, found]
      rw [if_neg (by simp only [Bool.and_eq_true, decide_eq_true_eq]; omega), read, whole]
      rfl
  case h_4 heq =>
      simp only [List.cons.injEq, true_and] at heq
      obtain ⟨rfl, rfl, rfl, rfl, rfl⟩ := heq
      simp only [digits, read, whole]
      rfl
  case h_5 other heq =>
      simp only [List.cons.injEq, true_and] at heq
      obtain ⟨rfl, rfl⟩ := heq
      exact absurd rfl (other a b c d rest rfl)
  case h_6 other heq =>
      obtain ⟨rfl, rfl⟩ := List.cons.inj heq
      exact absurd rfl (other 'u' _ rfl)
  all_goals simp at *

theorem lexText_letter {letter c : Char} {rest after : List Char} {text : List (Option Char)}
    (stands : escaped? letter = some c) (read : lexText rest = some (text, after)) :
    lexText ('\\' :: letter :: rest) = some (some c :: text, after) := by
  have noUnit : letter ≠ 'u' := by
    rintro rfl
    simp [escaped?] at stands
  rw [lexText.eq_def]
  split
  case h_6 other heq =>
      obtain ⟨rfl, rfl⟩ := List.cons.inj heq
      exact absurd rfl (other letter rest rfl)
  all_goals simp_all

theorem lexText_plain {c : Char} {rest after : List Char} {text : List (Option Char)}
    (noQuote : c ≠ '"') (noBackslash : c ≠ '\\') (seen : ¬ c < ' ')
    (read : lexText rest = some (text, after)) :
    lexText (c :: rest) = some (some c :: text, after) := by
  rw [lexText.eq_def]
  split <;> simp_all

theorem hexUnit?_hexChar {n : Nat} (small : n < 0x20) :
    hexUnit? '0' '0' (hexChar (n / 16)) (hexChar (n % 16)) = some n := by
  have digit : ∀ n < 16, hexDigit? (hexChar n) = some n := by decide
  have zero : hexDigit? '0' = some 0 := rfl
  simp only [hexUnit?, zero, digit _ (show n / 16 < 16 by omega),
    digit _ (Nat.mod_lt n (by decide))]
  exact congrArg some (by omega)

theorem lexText_escape (c : Char) {rest after : List Char} {text : List (Option Char)}
    (read : lexText rest = some (text, after)) :
    lexText (escape c ++ rest) = some (some c :: text, after) := by
  unfold escape
  split
  case h_8 noQuote noBackslash _ _ _ _ _ =>
      by_cases control : c < ' '
      · have small : c.toNat < 0x20 := control
        rw [if_pos control]
        have whole := lexText_unit (hexUnit?_hexChar small) (by omega) read
        rwa [Char.ofNat_toNat] at whole
      · rw [if_neg control]
        exact lexText_plain noQuote noBackslash control read
  all_goals exact lexText_letter rfl read

theorem lexText_escaped (s rest : List Char) :
    lexText (s.flatMap escape ++ '"' :: rest) = some (s.map some, rest) := by
  induction s with
  | nil => simp [lexText]
  | cons c s ih =>
      rw [List.flatMap_cons, List.append_assoc, List.map_cons]
      exact lexText_escape c ih

theorem stringToken_map_some (s : List Char) : stringToken (s.map some) = .str (String.ofList s) := by
  have all : (s.map some).mapM id = some s := by
    induction s with
    | nil => rfl
    | cons c s ih => simp [List.mapM_cons, ih]
  simp only [stringToken, all]

/-- A quoted string is one token, whatever follows. -/
theorem lexToken?_quote (s : String) (rest : List Char) :
    lexToken? (quote s ++ rest) = some (.str s, rest) := by
  simp only [quote, List.cons_append, List.append_assoc]
  rw [lexToken?, lexText_escaped]
  simp [stringToken_map_some]

end EnergyAudit.Json
