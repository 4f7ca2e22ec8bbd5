/-! # Arithmetic on counts

Counts are 64-bit words, and what they change by are signed 64-bit numbers.  A count above the
greatest signed number is taken for a negative one where a change is looked for.  A result that does
not fit is none. -/

namespace EnergyAudit.Count

/-- The signed 64-bit number, if there is one. -/
def signed? (n : Int) : Option Int64 :=
  if Int64.minValue.toInt ≤ n ∧ n ≤ Int64.maxValue.toInt then some (Int64.ofInt n) else none

/-- Two counts together. -/
def sum? (a b : UInt64) : Option UInt64 :=
  if a.toNat + b.toNat < UInt64.size then some (a + b) else none

/-- How much the count has grown since it was `before`. -/
def change? (before current : UInt64) : Option Int64 :=
  signed? (current.toInt64.toInt - before.toInt64.toInt)

def changed? (before : UInt64) (change : Int64) : Option Int64 :=
  signed? (before.toInt64.toInt + change.toInt)

def opposite? (n : Int64) : Option Int64 := signed? (-n.toInt)

theorem toInt_of_signed? {n : Int} {x : Int64} (h : signed? n = some x) : x.toInt = n := by
  unfold signed? at h
  split at h
  · rename_i bounds
    cases h
    exact Int64.toInt_ofInt_of_le (by exact bounds.1) (by
      have : Int64.maxValue.toInt = 2 ^ 63 - 1 := by decide
      omega)
  · contradiction

theorem toNat_of_sum? {a b x : UInt64} (h : sum? a b = some x) : x.toNat = a.toNat + b.toNat := by
  unfold sum? at h
  split at h
  · rename_i bound
    cases h
    rw [UInt64.toNat_add]
    exact Nat.mod_eq_of_lt bound
  · contradiction

end EnergyAudit.Count
