import EnergyAudit.Json.Number

/-! # Tokens of JSON text

The words of strict JSON: brackets, separators, strings, numbers and the three literals.  Strings
may not hold raw control characters.  A string in which an escaped surrogate has no partner, and a
number beyond the range of doubles, are tokens without a value. -/

namespace EnergyAudit.Json

/-- A word of JSON text. -/
inductive Token where
  | objectOpen
  | objectClose
  | arrayOpen
  | arrayClose
  | colon
  | comma
  | null
  | bool (value : Bool)
  | int (value : Int)
  | float (value : Float)
  | str (value : String)
  /-- A string with half of a surrogate pair. -/
  | halvedString
  /-- A number beyond the range of doubles. -/
  | boundlessNumber

/-- Value of a hexadecimal digit. -/
def hexDigit? (c : Char) : Option Nat :=
  if '0' ≤ c && c ≤ '9' then some (c.toNat - '0'.toNat)
  else if 'a' ≤ c && c ≤ 'f' then some (c.toNat - 'a'.toNat + 10)
  else if 'A' ≤ c && c ≤ 'F' then some (c.toNat - 'A'.toNat + 10)
  else none

/-- Value of four hexadecimal digits. -/
def hexUnit? (a b c d : Char) : Option Nat := do
  let a ← hexDigit? a
  let b ← hexDigit? b
  let c ← hexDigit? c
  let d ← hexDigit? d
  return ((a * 16 + b) * 16 + c) * 16 + d

/-- The character that a backslash and this letter stand for. -/
def escaped? : Char → Option Char
  | '"' => some '"'
  | '\\' => some '\\'
  | '/' => some '/'
  | 'b' => some '\x08'
  | 'f' => some '\x0c'
  | 'n' => some '\n'
  | 'r' => some '\r'
  | 't' => some '\t'
  | _ => none

/-- The character of a unit that is no surrogate. -/
def ofUnit? (unit : Nat) : Option Char :=
  if 0xd800 ≤ unit && unit < 0xe000 then none else some (Char.ofNat unit)

/-- Reads a string after its opening quote: its characters, and the text after the closing quote.
An escaped surrogate without its partner is no character. -/
def lexText : List Char → Option (List (Option Char) × List Char)
  | [] => none
  | '"' :: rest => some ([], rest)
  | '\\' :: 'u' :: a :: b :: c :: d :: '\\' :: 'u' :: e :: f :: g :: h :: rest =>
      match hexUnit? a b c d, hexUnit? e f g h with
      | some high, some low =>
          if 0xd800 ≤ high && high < 0xdc00 && 0xdc00 ≤ low && low < 0xe000 then
            (lexText rest).map fun (text, after) =>
              let value := 0x10000 + (high - 0xd800) * 0x400 + (low - 0xdc00)
              (some (Char.ofNat value) :: text, after)
          else
            (lexText ('\\' :: 'u' :: e :: f :: g :: h :: rest)).map fun (text, after) =>
              (ofUnit? high :: text, after)
      | _, _ => none
  | '\\' :: 'u' :: a :: b :: c :: d :: rest =>
      match hexUnit? a b c d with
      | some unit => (lexText rest).map fun (text, after) => (ofUnit? unit :: text, after)
      | none => none
  | '\\' :: letter :: rest =>
      match escaped? letter with
      | some c => (lexText rest).map fun (text, after) => (some c :: text, after)
      | none => none
  | c :: rest =>
      if c < ' ' || c == '\\' then none
      else (lexText rest).map fun (text, after) => (some c :: text, after)
termination_by s => s.length

theorem lexText_shorter {s rest : List Char} {text : List (Option Char)}
    (h : lexText s = some (text, rest)) : rest.length < s.length := by
  fun_induction lexText s generalizing text rest <;> simp_all <;> grind

def stringToken (text : List (Option Char)) : Token :=
  match text.mapM id with
  | some chars => .str (String.ofList chars)
  | none => .halvedString

/-- The token of a number that is read as a double, unless it is beyond the range. -/
def scaledToken (negative : Bool) (n : ScaledNumber) : Token :=
  match n.toDouble? with
  | some x => .float (if negative then -x else x)
  | none => .boundlessNumber

/-- The token of a number without fraction or exponent.  Minus zero, and what does not fit 64 bits,
becomes a double. -/
def wholeToken (negative : Bool) (digits : List Char) : Token :=
  let magnitude := Decimal.natOfDigits digits
  let greatest := if negative then UInt64.size / 2 else UInt64.size - 1
  if magnitude ≤ greatest && !(negative && magnitude == 0) then
    .int (if negative then -magnitude else magnitude)
  else scaledToken negative (.ofDigits digits [] 0)

/-- The digits after a point, at least one, if the text goes on with a point. -/
def lexFraction? : List Char → Option (Option (List Char) × List Char)
  | '.' :: rest =>
      let digits := rest.takeWhile Char.isDigit
      if digits.isEmpty then none else some (some digits, rest.dropWhile Char.isDigit)
  | rest => some (none, rest)

/-- The power of ten, if the text goes on with an exponent. -/
def lexPower? : List Char → Option (Option Int × List Char)
  | [] => some (none, [])
  | c :: rest =>
      if c == 'e' || c == 'E' then
        let (negative, tail) := Decimal.takeSign rest
        let digits := tail.takeWhile Char.isDigit
        if digits.isEmpty then none
        else
          let power : Int := Decimal.natOfDigits digits
          some (some (if negative then -power else power), tail.dropWhile Char.isDigit)
      else some (none, c :: rest)

/-- The token of a number with the digits `whole` and what may follow them. -/
def numberToken (negative : Bool) (whole : List Char) (fraction : Option (List Char))
    (power : Option Int) : Token :=
  match fraction, power with
  | none, none => wholeToken negative whole
  | _, _ => scaledToken negative (.ofDigits whole (fraction.getD []) (power.getD 0))

/-- Reads the number that the text starts with, after its minus sign.  Only a lone zero starts with
a zero. -/
def lexUnsigned? (negative : Bool) (s : List Char) : Option (Token × List Char) :=
  let whole := s.takeWhile Char.isDigit
  if whole.isEmpty || (whole.head? == some '0' && whole.length != 1) then none
  else
    match lexFraction? (s.dropWhile Char.isDigit) with
    | none => none
    | some (fraction, afterFraction) =>
        match lexPower? afterFraction with
        | none => none
        | some (power, rest) => some (numberToken negative whole fraction power, rest)

/-- Blanks that may stand between tokens. -/
def isSpace (c : Char) : Bool :=
  c == ' ' || c == '\t' || c == '\n' || c == '\r'

/-- Reads the token that the text starts with. -/
def lexToken? : List Char → Option (Token × List Char)
  | '{' :: rest => some (.objectOpen, rest)
  | '}' :: rest => some (.objectClose, rest)
  | '[' :: rest => some (.arrayOpen, rest)
  | ']' :: rest => some (.arrayClose, rest)
  | ':' :: rest => some (.colon, rest)
  | ',' :: rest => some (.comma, rest)
  | 'n' :: 'u' :: 'l' :: 'l' :: rest => some (.null, rest)
  | 't' :: 'r' :: 'u' :: 'e' :: rest => some (.bool true, rest)
  | 'f' :: 'a' :: 'l' :: 's' :: 'e' :: rest => some (.bool false, rest)
  | '"' :: rest => (lexText rest).map fun (text, after) => (stringToken text, after)
  | '-' :: rest => lexUnsigned? true rest
  | s => lexUnsigned? false s

theorem lexFraction?_length {s rest : List Char} {digits : Option (List Char)}
    (h : lexFraction? s = some (digits, rest)) : rest.length ≤ s.length := by
  unfold lexFraction? at h
  split at h
  · rename_i tail
    have := (List.dropWhile_suffix (l := tail) Char.isDigit).length_le
    simp only [List.length_cons]
    grind
  · grind

theorem lexPower?_length {s rest : List Char} {power : Option Int}
    (h : lexPower? s = some (power, rest)) : rest.length ≤ s.length := by
  cases s with
  | nil => simp_all [lexPower?]
  | cons c tail =>
      have signed : (Decimal.takeSign tail).2.length ≤ tail.length := by
        unfold Decimal.takeSign
        split <;> simp
      have digits := (List.dropWhile_suffix (l := (Decimal.takeSign tail).2) Char.isDigit).length_le
      simp only [lexPower?] at h
      simp only [List.length_cons]
      grind

theorem lexUnsigned?_shorter {negative : Bool} {s rest : List Char} {token : Token}
    (h : lexUnsigned? negative s = some (token, rest)) : rest.length < s.length := by
  have parts := congrArg List.length (List.takeWhile_append_dropWhile (p := Char.isDigit) (l := s))
  simp only [List.length_append] at parts
  simp only [lexUnsigned?] at h
  split at h
  · contradiction
  · rename_i whole
    have nonempty : 0 < (s.takeWhile Char.isDigit).length := by
      cases taken : s.takeWhile Char.isDigit with
      | nil => simp [taken] at whole
      | cons c cs => simp
    split at h
    · contradiction
    · rename_i fractionRead
      have := lexFraction?_length fractionRead
      split at h
      · contradiction
      · rename_i powerRead
        have := lexPower?_length powerRead
        simp only [Option.some.injEq, Prod.mk.injEq] at h
        obtain ⟨_, rfl⟩ := h
        omega

/-- A token takes at least one character. -/
theorem lexToken?_shorter {s rest : List Char} {token : Token}
    (h : lexToken? s = some (token, rest)) : rest.length < s.length := by
  unfold lexToken? at h
  split at h
  case h_10 tail =>
    simp only [Option.map_eq_some_iff] at h
    obtain ⟨⟨text, after⟩, ht, he⟩ := h
    have := lexText_shorter ht
    simp only [List.length_cons]
    grind
  case h_11 tail => have := lexUnsigned?_shorter h; simp only [List.length_cons]; omega
  case h_12 => exact lexUnsigned?_shorter h
  all_goals
    simp only [Option.some.injEq, Prod.mk.injEq] at h
    obtain ⟨_, rfl⟩ := h
    simp only [List.length_cons]
    omega

/-- The tokens of the text, if it consists of tokens and spaces only. -/
def tokens? : List Char → Option (List Token)
  | [] => some []
  | c :: s =>
      if isSpace c then tokens? s
      else
        match _h : lexToken? (c :: s) with
        | none => none
        | some (token, rest) => (tokens? rest).map (token :: ·)
termination_by s => s.length
decreasing_by
  · simp
  · exact lexToken?_shorter (by assumption)

end EnergyAudit.Json
