/-! # Maps sorted by key

A map from strings keeps its entries in strictly ascending order of their keys, so that two maps
with the same entries are equal and are written in the same way. -/

namespace EnergyAudit

theorem lt_of_not_lt {a b : String} (notLess : ¬ a < b) (different : a ≠ b) : b < a :=
  Classical.byContradiction fun notGreater =>
    different (String.le_antisymm (String.not_lt.mp notGreater) (String.not_lt.mp notLess))

/-- A map from strings to values. -/
structure SortedMap (α : Type) where
  entries : List (String × α)
  ascending : entries.Pairwise (fun a b => a.1 < b.1)

namespace SortedMap

variable {α : Type}

def empty : SortedMap α := ⟨[], .nil⟩

def find? (map : SortedMap α) (key : String) : Option α :=
  (map.entries.find? (·.1 == key)).map (·.2)

/-- Puts an entry in its place, instead of one with the same key. -/
def insertEntry (key : String) (value : α) : List (String × α) → List (String × α)
  | [] => [(key, value)]
  | entry :: rest =>
      if key < entry.1 then (key, value) :: entry :: rest
      else if key = entry.1 then (key, value) :: rest
      else entry :: insertEntry key value rest

theorem mem_insertEntry {key : String} {value : α} {entries : List (String × α)}
    {entry : String × α} (h : entry ∈ insertEntry key value entries) :
    entry = (key, value) ∨ entry ∈ entries := by
  induction entries with
  | nil => simpa [insertEntry] using h
  | cons first rest ih =>
      simp only [insertEntry] at h
      split at h
      · simpa using h
      · split at h
        · rcases List.mem_cons.mp h with rfl | h
          · exact .inl rfl
          · exact .inr (List.mem_cons_of_mem _ h)
        · rcases List.mem_cons.mp h with rfl | h
          · exact .inr List.mem_cons_self
          · rcases ih h with rfl | h
            · exact .inl rfl
            · exact .inr (List.mem_cons_of_mem _ h)

theorem pairwise_insertEntry {key : String} {value : α} {entries : List (String × α)}
    (ascending : entries.Pairwise (fun a b => a.1 < b.1)) :
    (insertEntry key value entries).Pairwise (fun a b => a.1 < b.1) := by
  induction entries with
  | nil => simp [insertEntry]
  | cons first rest ih =>
      obtain ⟨below, tail⟩ := List.pairwise_cons.mp ascending
      simp only [insertEntry]
      split
      case isTrue less =>
        refine List.pairwise_cons.mpr ⟨fun entry member => ?_, ascending⟩
        rcases List.mem_cons.mp member with rfl | member
        · exact less
        · exact String.lt_trans less (below entry member)
      case isFalse notLess =>
        split
        case isTrue same =>
          exact List.pairwise_cons.mpr ⟨fun entry member => same ▸ below entry member, tail⟩
        case isFalse different =>
          refine List.pairwise_cons.mpr ⟨fun entry member => ?_, ih tail⟩
          rcases mem_insertEntry member with rfl | member
          · exact lt_of_not_lt notLess different
          · exact below entry member

def insert (map : SortedMap α) (key : String) (value : α) : SortedMap α :=
  ⟨insertEntry key value map.entries, pairwise_insertEntry map.ascending⟩

/-- The map of the entries, where the last one of a key counts. -/
def ofList (entries : List (String × α)) : SortedMap α :=
  entries.foldl (fun map entry => map.insert entry.1 entry.2) empty

end SortedMap

end EnergyAudit
