import EnergyAudit.Severity

/-! # Changes of counts

Counts below half the range of a word have a change that is a signed number, and so has the change
the other way.  The counts of a list of findings are those of its severities, as long as the list is
no longer than a word can say. -/

namespace EnergyAudit

namespace Count

/-- The first count that is no signed number of 64 bits. -/
def signedBound : Nat := UInt64.size / 2

theorem signedBound_eq : signedBound = 9223372036854775808 := rfl

theorem exists_signed? {n : Int} (low : -signedBound ≤ n) (high : n < signedBound) :
    ∃ x, signed? n = some x := by
  have least : Int64.minValue.toInt = -9223372036854775808 := by decide
  have greatest : Int64.maxValue.toInt = 9223372036854775807 := by decide
  rw [signedBound_eq] at low high
  exact ⟨Int64.ofInt n, if_pos (by omega)⟩

theorem toInt_toInt64 {n : UInt64} (bound : n.toNat < signedBound) : n.toInt64.toInt = n.toNat := by
  change n.toBitVec.toInt = n.toNat
  have half : 2 * n.toBitVec.toNat < 2 ^ 64 := by
    rw [signedBound_eq] at bound
    change 2 * n.toNat < _
    omega
  rw [BitVec.toInt_eq_toNat_of_lt half]
  rfl

theorem toInt_toInt64_of_le {n : UInt64} (bound : signedBound ≤ n.toNat) :
    n.toInt64.toInt = n.toNat - UInt64.size := by
  change n.toBitVec.toInt = (n.toBitVec.toNat : Int) - UInt64.size
  have half : ¬ 2 * n.toBitVec.toNat < 2 ^ 64 := by
    rw [signedBound_eq] at bound
    change ¬ 2 * n.toNat < _
    omega
  rw [BitVec.toInt_eq_toNat_cond, if_neg half]

/-- Whether both counts are signed numbers, or neither of them. -/
def SameSide (a b : UInt64) : Prop := a.toNat < signedBound ↔ b.toNat < signedBound

instance (a b : UInt64) : Decidable (SameSide a b) := inferInstanceAs (Decidable (_ ↔ _))

theorem sameSide_of_lt {a b : UInt64} (first : a.toNat < signedBound)
    (second : b.toNat < signedBound) : SameSide a b :=
  iff_of_true first second

/-- What two counts on the same side differ by is not changed by what they are taken for. -/
theorem SameSide.sub_eq {before current : UInt64} (same : SameSide before current) :
    current.toInt64.toInt - before.toInt64.toInt = (current.toNat : Int) - before.toNat := by
  by_cases small : before.toNat < signedBound
  · rw [toInt_toInt64 small, toInt_toInt64 (same.mp small)]
  · have large : ¬ current.toNat < signedBound := fun current => small (same.mpr current)
    rw [toInt_toInt64_of_le (Nat.le_of_not_lt small), toInt_toInt64_of_le (Nat.le_of_not_lt large)]
    omega

/-- Two counts on the same side have a change, and it is what they differ by.  Its opposite is a
signed number as well. -/
theorem SameSide.exists_change? {before current : UInt64} (same : SameSide before current) :
    ∃ change opposite, change? before current = some change ∧
      opposite? change = some opposite ∧ change.toInt = (current.toNat : Int) - before.toNat := by
  have size : UInt64.size = 18446744073709551616 := rfl
  have first := before.toNat_lt_size
  have second := current.toNat_lt_size
  rw [SameSide, signedBound_eq] at same
  obtain ⟨change, known⟩ := exists_signed? (n := (current.toNat : Int) - before.toNat)
    (by rw [signedBound_eq]; omega) (by rw [signedBound_eq]; omega)
  have value := toInt_of_signed? known
  obtain ⟨opposite, turned⟩ := exists_signed? (n := -change.toInt)
    (by rw [signedBound_eq]; omega) (by rw [signedBound_eq]; omega)
  refine ⟨change, opposite, ?_, turned, value⟩
  rw [change?, SameSide.sub_eq same, known]

/-- On different sides a greater count is taken for the smaller one. -/
theorem sub_of_not_sameSide {before current : UInt64} (different : ¬ SameSide before current) :
    (0 < current.toInt64.toInt - before.toInt64.toInt ∧ current.toNat < before.toNat) ∨
      (current.toInt64.toInt - before.toInt64.toInt < 0 ∧ before.toNat < current.toNat) := by
  have size : UInt64.size = 18446744073709551616 := rfl
  have first := before.toNat_lt_size
  have second := current.toNat_lt_size
  by_cases small : before.toNat < signedBound
  · have large : ¬ current.toNat < signedBound :=
      fun current => different (iff_of_true small current)
    rw [toInt_toInt64 small, toInt_toInt64_of_le (Nat.le_of_not_lt large)]
    exact .inr ⟨by omega, by omega⟩
  · have large : current.toNat < signedBound :=
      Decidable.byContradiction fun large => different (iff_of_false small large)
    rw [toInt_toInt64_of_le (Nat.le_of_not_lt small), toInt_toInt64 large]
    exact .inl ⟨by omega, by omega⟩

/-- A change that is known is what the counts differ by exactly if they are on the same side. -/
theorem toInt_change?_iff {before current : UInt64} {change : Int64}
    (known : change? before current = some change) :
    change.toInt = (current.toNat : Int) - before.toNat ↔ SameSide before current := by
  have value := toInt_of_signed? known
  by_cases same : SameSide before current
  · exact iff_of_true (value.trans same.sub_eq) same
  · refine iff_of_false ?_ same
    rcases sub_of_not_sameSide same with ⟨_, _⟩ | ⟨_, _⟩ <;> omega

/-- So is its sign the right one. -/
theorem change?_pos_iff_iff {before current : UInt64} {change : Int64}
    (known : change? before current = some change) :
    (0 < change ↔ before < current) ↔ SameSide before current := by
  have value := toInt_of_signed? known
  rw [Int64.lt_iff_toInt_lt, UInt64.lt_iff_toNat_lt, value]
  change ((0 : Int) < _ ↔ _) ↔ _
  by_cases same : SameSide before current
  · rw [same.sub_eq]
    exact iff_of_true (by omega) same
  · refine iff_of_false ?_ same
    rcases sub_of_not_sameSide same with ⟨_, _⟩ | ⟨_, _⟩ <;> omega

/-- The change has the sign of what the counts differ by. -/
structure SignOf (before current : UInt64) (change : Int64) : Prop where
  grown : 0 < change ↔ before < current
  shrunk : change < 0 ↔ current < before
  same : change = 0 ↔ current = before

theorem signOf_iff {before current : UInt64} {change : Int64}
    (known : change? before current = some change) :
    SignOf before current change ↔ SameSide before current := by
  constructor
  · intro sign
    exact (change?_pos_iff_iff known).mp sign.grown
  · intro same
    have value := (toInt_change?_iff known).mpr same
    refine ⟨(change?_pos_iff_iff known).mpr same, ?_, ?_⟩
    · rw [Int64.lt_iff_toInt_lt, UInt64.lt_iff_toNat_lt, value]
      change _ < (0 : Int) ↔ _
      omega
    · rw [← Int64.toInt_inj, ← UInt64.toNat_inj, value]
      change _ = (0 : Int) ↔ _
      omega

/-- Two counts of which each is a signed number have a change whose opposite is one as well. -/
theorem exists_change? {before current : UInt64} (old : before.toNat < signedBound)
    (new : current.toNat < signedBound) :
    ∃ change opposite, change? before current = some change ∧ opposite? change = some opposite := by
  obtain ⟨change, opposite, known, turned, _⟩ := (sameSide_of_lt old new).exists_change?
  exact ⟨change, opposite, known, turned⟩

/-- Between such counts, the change is positive exactly if the count has grown. -/
theorem change?_pos_iff {before current : UInt64} (old : before.toNat < signedBound)
    (new : current.toNat < signedBound) {change : Int64}
    (known : change? before current = some change) : 0 < change ↔ before < current :=
  (change?_pos_iff_iff known).mpr (sameSide_of_lt old new)

/-- What has changed by a known change has become a signed number. -/
theorem exists_changed? {before current : UInt64} {change : Int64}
    (known : change? before current = some change) :
    ∃ after, changed? before change = some after := by
  have low := Int64.minValue_le_toInt current.toInt64
  have high := Int64.toInt_le current.toInt64
  unfold changed?
  rw [toInt_of_signed? known]
  exact ⟨_, if_pos (by omega)⟩

theorem change?_self (n : UInt64) : change? n n = some 0 := by
  unfold change?
  rw [Int.sub_self]
  rfl

end Count

namespace SeverityCounts

theorem total?_eq {counts : SeverityCounts}
    (small : counts.critical.toNat + counts.warning.toNat + counts.info.toNat < UInt64.size) :
    counts.total? = some (counts.critical + counts.warning + counts.info) := by
  have first : Count.sum? counts.critical counts.warning =
      some (counts.critical + counts.warning) := if_pos (by omega)
  have sum := Count.toNat_of_sum? first
  rw [total?, first]
  exact if_pos (by omega)

theorem exists_total? {counts : SeverityCounts}
    (small : counts.critical.toNat + counts.warning.toNat + counts.info.toNat < Count.signedBound) :
    ∃ total, counts.total? = some total := by
  have size : Count.signedBound ≤ UInt64.size := by decide
  exact ⟨_, total?_eq (by omega)⟩

theorem toNat_total? {counts : SeverityCounts} {total : UInt64}
    (known : counts.total? = some total) :
    total.toNat = counts.critical.toNat + counts.warning.toNat + counts.info.toNat := by
  obtain ⟨first, firstKnown, totalKnown⟩ := Option.bind_eq_some_iff.mp known
  rw [Count.toNat_of_sum? totalKnown, Count.toNat_of_sum? firstKnown]

theorem get_count (counts : SeverityCounts) (counted severity : Severity) :
    (counts.count counted).get severity =
      if counted = severity then counts.get severity + 1 else counts.get severity := by
  cases counted <;> cases severity <;> rfl

theorem get_foldl (severities : List Severity) (counts : SeverityCounts) (severity : Severity) :
    (severities.foldl count counts).get severity =
      counts.get severity + UInt64.ofNat (severities.count severity) := by
  induction severities generalizing counts with
  | nil => exact (UInt64.add_zero _).symm
  | cons counted severities ih =>
      rw [List.foldl_cons, ih, get_count, List.count_cons, UInt64.ofNat_add]
      by_cases same : counted = severity
      · subst same
        rw [if_pos rfl, if_pos (beq_self_eq_true _), UInt64.add_assoc, UInt64.add_comm 1]
        rfl
      · rw [if_neg same, if_neg (by simpa using same)]
        exact congrArg _ (UInt64.add_zero _).symm

theorem get_tally (severities : List Severity) (severity : Severity) :
    (tally severities).get severity = UInt64.ofNat (severities.count severity) := by
  have start : zero.get severity = 0 := by cases severity <;> rfl
  rw [tally, get_foldl, start, UInt64.zero_add]

theorem toNat_get_tally {severities : List Severity} (few : severities.length < UInt64.size)
    (severity : Severity) :
    ((tally severities).get severity).toNat = severities.count severity := by
  have within : severities.count severity ≤ severities.length := List.count_le_length
  rw [get_tally]
  exact UInt64.toNat_ofNat_of_lt (by omega)

theorem eq_of_get {counts counts' : SeverityCounts}
    (same : ∀ severity, counts.get severity = counts'.get severity) : counts = counts' := by
  cases counts
  cases counts'
  rw [mk.injEq]
  exact ⟨same .critical, same .warning, same .info⟩

/-- The counts of findings of which some were counted here and some there. -/
def add (counts others : SeverityCounts) : SeverityCounts where
  critical := counts.critical + others.critical
  warning := counts.warning + others.warning
  info := counts.info + others.info

theorem tally_append (severities others : List Severity) :
    tally (severities ++ others) = (tally severities).add (tally others) := by
  refine eq_of_get fun severity => ?_
  have added : ((tally severities).add (tally others)).get severity =
      (tally severities).get severity + (tally others).get severity := by
    cases severity <;> rfl
  rw [added, get_tally, get_tally, get_tally, List.count_append, UInt64.ofNat_add]

/-- The order in which findings are counted does not matter. -/
theorem tally_perm {severities others : List Severity} (same : severities.Perm others) :
    tally severities = tally others :=
  eq_of_get fun severity => by rw [get_tally, get_tally, same.count_eq]

/-- Every finding is counted once. -/
theorem length_eq_sum_count (severities : List Severity) :
    severities.length =
      severities.count .critical + severities.count .warning + severities.count .info := by
  induction severities with
  | nil => rfl
  | cons severity severities ih =>
      rw [List.length_cons, ih]
      cases severity <;> simp +arith

end SeverityCounts

end EnergyAudit
