import EnergyAudit.Text.Blank
import EnergyAudit.Text.Word
import EnergyAudit.Text.DecimalDigit

/-! # Patterns

Patterns describe pieces of text.  `Matches` says which pieces a pattern describes when a given text
follows them; `run` decides it by trying the ways to match in turn, and `run_iff` ties the two
together.  Letters of a pattern are compared without regard to case. -/

namespace EnergyAudit

/-- A description of pieces of text. -/
inductive Pattern where
  /-- One character of the class. -/
  | one (accepts : Char → Bool)
  /-- Any number of characters of the class. -/
  | many (accepts : Char → Bool)
  /-- A piece that may be missing. -/
  | maybe (piece : Pattern)
  /-- One piece and then the other. -/
  | seq (first second : Pattern)
  /-- Nothing, where no character of the class follows. -/
  | notBefore (accepts : Char → Bool)
  /-- Nothing, at the end of the text. -/
  | textEnd
  /-- Nothing. -/
  | nothing

namespace Pattern

/-- The pattern describes `piece` when `rest` follows it. -/
inductive Matches : Pattern → List Char → List Char → Prop where
  | one {accepts : Char → Bool} {c : Char} {rest : List Char} :
      accepts c = true → Matches (.one accepts) [c] rest
  | many {accepts : Char → Bool} {piece rest : List Char} :
      (∀ c ∈ piece, accepts c = true) → Matches (.many accepts) piece rest
  | present {p : Pattern} {piece rest : List Char} :
      Matches p piece rest → Matches (.maybe p) piece rest
  | absent {p : Pattern} {rest : List Char} : Matches (.maybe p) [] rest
  | seq {p q : Pattern} {left right rest : List Char} :
      Matches p left (right ++ rest) → Matches q right rest →
        Matches (.seq p q) (left ++ right) rest
  | notBefore {accepts : Char → Bool} {rest : List Char} :
      (∀ c ∈ rest.head?, accepts c = false) → Matches (.notBefore accepts) [] rest
  | textEnd : Matches .textEnd [] []
  | nothing {rest : List Char} : Matches .nothing [] rest

/-- Takes characters of the class off the text, and goes on with `next` after each and before
any. -/
def runMany (accepts : Char → Bool) (next : List Char → Bool) : List Char → Bool
  | [] => next []
  | c :: s => next (c :: s) || (accepts c && runMany accepts next s)

/-- Whether the pattern describes a start of the text such that `next` holds of what follows. -/
def run : Pattern → (List Char → Bool) → List Char → Bool
  | .one accepts, next, s =>
      match s with
      | [] => false
      | c :: rest => accepts c && next rest
  | .many accepts, next, s => runMany accepts next s
  | .maybe p, next, s => run p next s || next s
  | .seq p q, next, s => run p (run q next) s
  | .notBefore accepts, next, s => s.head?.all (fun c => !accepts c) && next s
  | .textEnd, next, s => s.isEmpty && next s
  | .nothing, next, s => next s

theorem runMany_iff {accepts : Char → Bool} {next : List Char → Bool} {s : List Char} :
    runMany accepts next s = true ↔
      ∃ piece rest, s = piece ++ rest ∧ (∀ c ∈ piece, accepts c = true) ∧ next rest = true := by
  induction s with
  | nil =>
      simp only [runMany]
      constructor
      · intro h
        exact ⟨[], [], rfl, by simp, h⟩
      · rintro ⟨piece, rest, split, _, h⟩
        have := List.append_eq_nil_iff.mp split.symm
        simpa [this.2] using h
  | cons c s ih =>
      simp only [runMany, Bool.or_eq_true, Bool.and_eq_true, ih]
      constructor
      · rintro (h | ⟨first, piece, rest, rfl, all, h⟩)
        · exact ⟨[], c :: s, rfl, by simp, h⟩
        · exact ⟨c :: piece, rest, rfl, by simpa using ⟨first, all⟩, h⟩
      · rintro ⟨piece, rest, split, all, h⟩
        cases piece with
        | nil =>
            simp only [List.nil_append] at split
            exact Or.inl (split ▸ h)
        | cons d piece =>
            simp only [List.cons_append, List.cons.injEq] at split
            obtain ⟨rfl, rfl⟩ := split
            simp only [List.forall_mem_cons] at all
            exact Or.inr ⟨all.1, piece, rest, rfl, all.2, h⟩

/-- The run of a pattern finds exactly the pieces that it describes. -/
theorem run_iff {p : Pattern} {next : List Char → Bool} {s : List Char} :
    p.run next s = true ↔
      ∃ piece rest, s = piece ++ rest ∧ p.Matches piece rest ∧ next rest = true := by
  induction p generalizing next s with
  | one accepts =>
      cases s with
      | nil =>
          simp only [run, Bool.false_eq_true, false_iff]
          rintro ⟨piece, rest, split, ⟨_⟩, _⟩
          simp at split
      | cons c s =>
          simp only [run, Bool.and_eq_true]
          constructor
          · rintro ⟨first, h⟩
            exact ⟨[c], s, rfl, .one first, h⟩
          · rintro ⟨piece, rest, split, ⟨first⟩, h⟩
            simp only [List.cons_append, List.nil_append, List.cons.injEq] at split
            obtain ⟨rfl, rfl⟩ := split
            exact ⟨first, h⟩
  | many accepts =>
      simp only [run, runMany_iff]
      constructor
      · rintro ⟨piece, rest, split, all, h⟩
        exact ⟨piece, rest, split, .many all, h⟩
      · rintro ⟨piece, rest, split, m, h⟩
        cases m with
        | many all => exact ⟨piece, rest, split, all, h⟩
  | maybe p ih =>
      simp only [run, Bool.or_eq_true, ih]
      constructor
      · rintro (⟨piece, rest, split, m, h⟩ | h)
        · exact ⟨piece, rest, split, .present m, h⟩
        · exact ⟨[], s, rfl, .absent, h⟩
      · rintro ⟨piece, rest, split, m, h⟩
        cases m with
        | present m => exact Or.inl ⟨piece, rest, split, m, h⟩
        | absent => exact Or.inr (by simpa [split] using h)
  | seq p q ihp ihq =>
      simp only [run, ihp, ihq]
      constructor
      · rintro ⟨left, _, rfl, mp, right, rest, rfl, mq, h⟩
        exact ⟨left ++ right, rest, by simp, .seq mp mq, h⟩
      · rintro ⟨_, rest, split, m, h⟩
        cases m with
        | @seq _ _ left right _ mp mq =>
            exact ⟨left, right ++ rest, by simp [split], mp, right, rest, rfl, mq, h⟩
  | notBefore accepts =>
      simp only [run, Bool.and_eq_true, Option.all_eq_true, Bool.not_eq_true']
      constructor
      · rintro ⟨ahead, h⟩
        exact ⟨[], s, rfl, .notBefore ahead, h⟩
      · rintro ⟨_, rest, split, m, h⟩
        cases m with
        | notBefore ahead =>
            simp only [List.nil_append] at split
            exact ⟨split ▸ ahead, split ▸ h⟩
  | textEnd =>
      simp only [run, Bool.and_eq_true, List.isEmpty_iff]
      constructor
      · rintro ⟨rfl, h⟩
        exact ⟨[], [], rfl, .textEnd, h⟩
      · rintro ⟨_, _, split, ⟨_⟩, h⟩
        simp only [List.append_nil] at split
        exact ⟨split, split ▸ h⟩
  | nothing =>
      simp only [run]
      constructor
      · intro h
        exact ⟨[], s, rfl, .nothing, h⟩
      · rintro ⟨_, rest, split, ⟨_⟩, h⟩
        simpa [split] using h

/-- Whether the text starts with a piece that the pattern describes. -/
def startsHere (p : Pattern) (s : List Char) : Bool :=
  p.run (fun _ => true) s

/-- Whether the pattern describes a piece anywhere in the text. -/
def occursIn (p : Pattern) : List Char → Bool
  | [] => p.startsHere []
  | c :: s => p.startsHere (c :: s) || occursIn p s

/-- A pattern occurs in a text exactly if it describes a piece of it. -/
theorem occursIn_iff {p : Pattern} {s : List Char} :
    p.occursIn s = true ↔
      ∃ before piece rest, s = before ++ piece ++ rest ∧ p.Matches piece rest := by
  induction s with
  | nil =>
      simp only [occursIn, startsHere, run_iff]
      constructor
      · rintro ⟨piece, rest, split, m, _⟩
        exact ⟨[], piece, rest, by simpa using split, m⟩
      · rintro ⟨before, piece, rest, split, m⟩
        have nil := List.append_eq_nil_iff.mp split.symm
        have := List.append_eq_nil_iff.mp nil.1
        exact ⟨piece, rest, by simp [this.2, nil.2], m, trivial⟩
  | cons c s ih =>
      simp only [occursIn, startsHere, Bool.or_eq_true, run_iff, ih]
      constructor
      · rintro (⟨piece, rest, split, m, _⟩ | ⟨before, piece, rest, rfl, m⟩)
        · exact ⟨[], piece, rest, by simpa using split, m⟩
        · exact ⟨c :: before, piece, rest, by simp, m⟩
      · rintro ⟨before, piece, rest, split, m⟩
        cases before with
        | nil => exact Or.inl ⟨piece, rest, by simpa using split, m, trivial⟩
        | cons d before =>
            simp only [List.cons_append, List.cons.injEq] at split
            obtain ⟨rfl, rfl⟩ := split
            exact Or.inr ⟨before, piece, rest, rfl, m⟩

def sequence : List Pattern → Pattern
  | [] => .nothing
  | p :: ps => .seq p (sequence ps)

/-- Whether `c` is the ASCII character `letter` when case is left out of account.  The long s and
the Kelvin sign are such forms of s and k. -/
def sameLetter (letter c : Char) : Bool :=
  c.toLower == letter.toLower
    || (c == 'ſ' && letter.toLower == 's') || (c == '\u212a' && letter.toLower == 'k')

/-- The word in any mixture of case. -/
def word (text : String) : Pattern :=
  sequence (text.toList.map fun letter => .one (sameLetter letter))

/-- The word exactly as written. -/
def exactly (text : String) : Pattern :=
  sequence (text.toList.map fun letter => .one (· == letter))

def blanks : Pattern := .many Text.isBlank

/-- At least one character of the class. -/
def atLeastOne (accepts : Char → Bool) : Pattern := .seq (.one accepts) (.many accepts)

end Pattern

end EnergyAudit
