import EnergyAudit.Files.Tree
import Mathlib.Data.List.Induction

/-! # Trees after a change

An entry that is put into a tree stands at its location, and everything else stands as before.  The
fresh name of a tree stands nowhere in it. -/

namespace EnergyAudit.Tree

/-- Every entry stands in a directory. -/
def Proper (tree : Tree) : Prop :=
  ∀ location name entry, tree.entryAt? (location ++ [name]) = some entry →
    tree.entryAt? location = some .directory

/-- Nothing stands below the location. -/
def Bare (tree : Tree) (location : Location) : Prop :=
  ∀ below, below ≠ [] → tree.entryAt? (location ++ below) = none

variable {tree : Tree} {location other : Location} {entry : Entry}

theorem entryAt?_put_same (present : location ≠ []) (tree : Tree) (entry : Entry) :
    (tree.put location entry).entryAt? location = some entry := by
  have none : (tree.entries.filter (·.1 != location)).find? (·.1 == location) = Option.none := by
    simp
  simp [entryAt?, put, present, List.find?_append, none]

theorem entryAt?_put_other (different : other ≠ location) (tree : Tree) (entry : Entry) :
    (tree.put location entry).entryAt? other = tree.entryAt? other := by
  have kept : (tree.entries.filter (·.1 != location)).find? (·.1 == other) =
      tree.entries.find? (·.1 == other) := by
    rw [List.find?_filter]
    congr 1
    funext stored
    by_cases same : stored.1 = other
    · simp [same, different]
    · simp [same]
  simp [entryAt?, put, List.find?_append, kept, Ne.symm different]

theorem put_put (tree : Tree) (location : Location) (first second : Entry) :
    (tree.put location first).put location second = tree.put location second := by
  simp [put, List.filter_append]

theorem Proper.bare (proper : tree.Proper) (vacant : tree.entryAt? location = none) :
    tree.Bare location := by
  intro below
  induction below using List.reverseRecOn with
  | nil => exact fun nonempty => absurd rfl nonempty
  | append_singleton below name ih =>
      intro _
      cases found : tree.entryAt? (location ++ (below ++ [name])) with
      | none => rfl
      | some entry =>
          have holder := proper (location ++ below) name entry (by rwa [List.append_assoc])
          cases below with
          | nil => simp [vacant] at holder
          | cons first rest => simp [ih (by simp)] at holder

theorem Bare.put (bare : tree.Bare location) (entry : Entry) :
    (tree.put location entry).Bare location := by
  intro more nonempty
  rw [entryAt?_put_other (by simp [nonempty])]
  exact bare more nonempty

theorem Bare.append (bare : tree.Bare location) (below : Location) :
    tree.Bare (location ++ below) := by
  intro more nonempty
  rw [List.append_assoc]
  exact bare (below ++ more) (by simp [nonempty])

/-! ## The fresh name -/

theorem exists_stored_of_entryAt? (found : tree.entryAt? location = some entry)
    (below : location ≠ []) : ∃ stored ∈ tree.entries, stored.1 = location := by
  rw [entryAt?, if_neg (by simpa using below)] at found
  obtain ⟨stored, first, -⟩ := Option.map_eq_some_iff.mp found
  exact ⟨stored, List.mem_of_find?_eq_some first, by simpa using List.find?_some first⟩

theorem le_foldl_add {n : Nat} (numbers : List Nat) (start : Nat)
    (within : n ∈ numbers ∨ n ≤ start) : n ≤ numbers.foldl (· + ·) start := by
  induction numbers generalizing start with
  | nil => exact within.resolve_left List.not_mem_nil
  | cons first numbers ih =>
      refine ih (start + first) ?_
      rcases within with member | below
      · rcases List.mem_cons.mp member with rfl | later
        · exact .inr (Nat.le_add_left ..)
        · exact .inl later
      · exact .inr (Nat.le_add_right_of_le below)

/-- The fresh name is longer than all names of the tree together. -/
theorem length_lt_length_freshName {stored : Location × Entry} {name : String}
    (member : stored ∈ tree.entries) (inside : name ∈ stored.1) :
    name.length < tree.freshName.length := by
  have listed : name.length ∈ (tree.entries.flatMap (·.1)).map String.length :=
    List.mem_map_of_mem (List.mem_flatMap.mpr ⟨stored, member, inside⟩)
  have within := le_foldl_add _ 0 (.inl listed)
  simp only [freshName, String.length_ofList, List.length_cons, List.length_replicate]
  omega

theorem entryAt?_freshName (tree : Tree) (location : Location) :
    tree.entryAt? (location ++ [tree.freshName]) = none := by
  cases found : tree.entryAt? (location ++ [tree.freshName]) with
  | none => rfl
  | some entry =>
      obtain ⟨stored, member, there⟩ := exists_stored_of_entryAt? found (by simp)
      have longer := length_lt_length_freshName member
        (there ▸ List.mem_append_right location (List.mem_singleton_self tree.freshName))
      exact absurd longer (Nat.lt_irrefl _)

end EnergyAudit.Tree
