import EnergyAudit.Proofs.Text.Lines
import EnergyAudit.Proofs.Text.SmallForms
import Mathlib.Data.List.TakeWhile

/-! # Blanks around a text

Trimming takes off the blanks around a text, however many there are.  So texts that differ in nothing
else are the same when they are trimmed, and so are their pieces when they are cut. -/

namespace EnergyAudit.Text

/-- A text with blanks around it. -/
inductive Padded (core : List Char) : List Char → Prop
  | intro {before after : List Char} (left : ∀ c ∈ before, isBlank c = true)
      (right : ∀ c ∈ after, isBlank c = true) : Padded core (before ++ (core ++ after))

variable {core s blanks : List Char} {separator : Char}

theorem trimStart_append (left : ∀ c ∈ blanks, isBlank c = true) (s : List Char) :
    trimStart (blanks ++ s) = trimStart s :=
  List.dropWhile_append_of_pos left

theorem trimEnd_append (s : List Char) (right : ∀ c ∈ blanks, isBlank c = true) :
    trimEnd (s ++ blanks) = trimEnd s := by
  have turned : ∀ c ∈ blanks.reverse, isBlank c = true :=
    fun c member => right c (List.mem_reverse.mp member)
  rw [trimEnd, List.reverse_append, List.dropWhile_append_of_pos turned, trimEnd]

theorem trim_append (s : List Char) (right : ∀ c ∈ blanks, isBlank c = true) :
    trim (s ++ blanks) = trim s := by
  rw [trim, trimStart, List.dropWhile_append]
  split
  · rename_i nothing
    have gone : blanks.dropWhile isBlank = [] := List.dropWhile_eq_nil_iff.mpr right
    rw [gone, trim, trimStart, List.isEmpty_iff.mp nothing]
  · exact trimEnd_append _ right

theorem Padded.trim_eq (padded : Padded core s) : trim s = trim core := by
  obtain ⟨left, right⟩ := padded
  rw [trim, trimStart_append left]
  exact trim_append core right

/-- A text that starts and ends with no blank is found again. -/
theorem Padded.trim_of_isTrimmed (padded : Padded core s) (trimmed : IsTrimmed core) :
    trim s = core := padded.trim_eq.trans trimmed.trim_eq

/-- A text is what trimming leaves of it, with blanks around that. -/
theorem padded_trim (s : List Char) : Padded (trim s) s := by
  have first : s.takeWhile isBlank ++ trimStart s = s := List.takeWhile_append_dropWhile
  have last : trimEnd (trimStart s) ++ ((trimStart s).reverse.takeWhile isBlank).reverse =
      trimStart s := by
    rw [trimEnd, ← List.reverse_append, List.takeWhile_append_dropWhile, List.reverse_reverse]
  have padded : Padded (trim s) (s.takeWhile isBlank ++
      (trim s ++ ((trimStart s).reverse.takeWhile isBlank).reverse)) :=
    .intro (fun _ member => (List.mem_takeWhile_imp member))
      (fun _ member => List.mem_takeWhile_imp (List.mem_reverse.mp member))
  rwa [trim, last, first] at padded

theorem padded_of_trim_eq (same : trim s = core) : Padded core s := same ▸ padded_trim s

theorem isTrimmed_iff : IsTrimmed s ↔ trim s = s :=
  ⟨IsTrimmed.trim_eq, fun same => same ▸ isTrimmed_trim s⟩

instance (s : List Char) : Decidable (IsTrimmed s) := decidable_of_iff _ isTrimmed_iff.symm

theorem isTrimmed_of_visible (visible : ∀ c ∈ s, isBlank c = false) : IsTrimmed s where
  first _ found := visible _ (List.mem_of_mem_head? found)
  last _ found := visible _ (List.mem_of_mem_getLast? found)

theorem Padded.not_mem (padded : Padded core s) (visible : isBlank separator = false)
    (outside : separator ∉ core) : separator ∉ s := by
  obtain ⟨left, right⟩ := padded
  intro member
  rcases List.mem_append.mp member with inside | inside
  · exact absurd (left _ inside) (by simp [visible])
  · rcases List.mem_append.mp inside with inside | inside
    · exact outside inside
    · exact absurd (right _ inside) (by simp [visible])

/-- Blanks in front of a text go to its first piece. -/
theorem map_trim_splitOn_blanks (visible : isBlank separator = false)
    (left : ∀ c ∈ blanks, isBlank c = true) (s : List Char) :
    (splitOn separator (blanks ++ s)).map trim = (splitOn separator s).map trim := by
  induction blanks with
  | nil => rfl
  | cons c blanks ih =>
      have blank := left c List.mem_cons_self
      have other : c ≠ separator := by
        rintro rfl
        exact absurd blank (by simp [visible])
      rw [← ih fun d member => left d (List.mem_cons_of_mem _ member), List.cons_append,
        splitOn_cons]
      cases split : splitOn separator (blanks ++ s) with
      | nil => exact absurd split (splitOn_ne_nil separator _)
      | cons piece pieces =>
          have same : trim (c :: piece) = trim piece := by
            rw [trim, trim, trimStart, List.dropWhile_cons_of_pos blank, trimStart]
          simp [startPieces, other, same]

/-- What blanks stand around a text is not seen in its pieces when these are trimmed. -/
theorem Padded.map_trim_splitOn (padded : Padded core s) (visible : isBlank separator = false) :
    (splitOn separator s).map trim = (splitOn separator core).map trim := by
  obtain ⟨left, right⟩ := padded
  rename_i before after
  rw [map_trim_splitOn_blanks visible left]
  have outside : separator ∉ after := fun member => absurd (right _ member) (by simp [visible])
  obtain ⟨pieces, last, split, grows⟩ := exists_splitOn_append separator core
  rw [split, grows after outside, List.map_append, List.map_append, List.map_singleton,
    List.map_singleton, trim_append last right]

theorem trim_eq_nil_iff : trim s = [] ↔ isBlankLine s = true := by
  constructor
  · intro nothing
    have padded := padded_trim s
    rw [nothing] at padded
    obtain ⟨left, right⟩ := padded
    simp only [isBlankLine, List.all_append, List.all_nil, Bool.true_and, Bool.and_eq_true,
      List.all_eq_true]
    exact ⟨left, right⟩
  · intro blank
    exact trim_append [] (List.all_eq_true.mp blank)

end EnergyAudit.Text
