import EnergyAudit.SortedMap

/-! # Sorted maps by what they hold

A sorted map is known by what it has for each key.  Putting a value at a key changes what it has for
that key and for no other one, so that values for different keys may be put in any order. -/

namespace EnergyAudit.SortedMap

variable {α : Type} {key other : String} {value : α}

theorem ext_entries {a b : SortedMap α} (same : a.entries = b.entries) : a = b := by
  cases a
  cases b
  simp_all

theorem mem_entries_of_find? {map : SortedMap α} (found : map.find? key = some value) :
    (key, value) ∈ map.entries := by
  simp only [find?, Option.map_eq_some_iff] at found
  obtain ⟨entry, first, rfl⟩ := found
  have same : entry.1 = key := by simpa using List.find?_some first
  exact same ▸ List.mem_of_find?_eq_some first

theorem find?_of_mem_entries {map : SortedMap α} (member : (key, value) ∈ map.entries) :
    map.find? key = some value := by
  obtain ⟨entries, ascending⟩ := map
  simp only [find?] at member ⊢
  induction entries with
  | nil => contradiction
  | cons entry rest ih =>
      obtain ⟨below, tail⟩ := List.pairwise_cons.mp ascending
      rcases List.mem_cons.mp member with rfl | later
      · simp
      · have different : entry.1 ≠ key := by
          intro same
          have less := below (key, value) later
          exact String.lt_irrefl key (same ▸ less)
        rw [List.find?_cons_of_neg (by simpa using different)]
        exact ih tail later

theorem ext_find? {a b : SortedMap α} (same : ∀ key, a.find? key = b.find? key) : a = b := by
  have nodup (map : SortedMap α) : map.entries.Nodup := by
    apply map.ascending.imp
    intro x y less equal
    exact String.lt_irrefl x.1 (equal ▸ less)
  have members : ∀ entry, entry ∈ a.entries ↔ entry ∈ b.entries := by
    intro entry
    constructor
    · intro member
      exact mem_entries_of_find? (same entry.1 ▸ find?_of_mem_entries member)
    · intro member
      exact mem_entries_of_find? ((same entry.1).symm ▸ find?_of_mem_entries member)
  have perm := (List.perm_ext_iff_of_nodup (nodup a) (nodup b)).mpr members
  apply ext_entries
  apply List.Perm.eq_of_pairwise _ a.ascending b.ascending perm
  intro x y _ _ below above
  exact absurd above (String.lt_asymm below)

theorem find?_insertEntry_same (entries : List (String × α)) :
    (insertEntry key value entries).find? (·.1 == key) = some (key, value) := by
  induction entries with
  | nil => simp [insertEntry]
  | cons entry rest ih =>
      simp only [insertEntry]
      split
      · simp
      · split
        · simp
        · rename_i different
          rw [List.find?_cons_of_neg (by simpa using Ne.symm different)]
          exact ih

theorem find?_insertEntry_other (different : other ≠ key) (entries : List (String × α)) :
    (insertEntry key value entries).find? (·.1 == other) = entries.find? (·.1 == other) := by
  have passed (rest : List (String × α)) :
      ((key, value) :: rest).find? (·.1 == other) = rest.find? (·.1 == other) :=
    List.find?_cons_of_neg (by simpa using Ne.symm different)
  induction entries with
  | nil => exact passed []
  | cons entry rest ih =>
      simp only [insertEntry]
      split
      · exact passed (entry :: rest)
      · split
        · rename_i same
          rw [passed, List.find?_cons_of_neg (by simpa [← same] using Ne.symm different)]
        · simp only [List.find?_cons, ih]

@[simp]
theorem find?_empty (key : String) : (empty : SortedMap α).find? key = none := rfl

@[simp]
theorem find?_insert_same (map : SortedMap α) (key : String) (value : α) :
    (map.insert key value).find? key = some value := by
  simp only [find?, insert, find?_insertEntry_same]
  rfl

theorem find?_insert_other (map : SortedMap α) (value : α) (different : other ≠ key) :
    (map.insert key value).find? other = map.find? other := by
  simp only [find?, insert, find?_insertEntry_other different]

theorem insert_comm (map : SortedMap α) {key other : String} (different : key ≠ other)
    (value otherValue : α) :
    (map.insert key value).insert other otherValue =
      (map.insert other otherValue).insert key value := by
  apply ext_find?
  intro k
  by_cases first : k = key
  · subst first
    rw [find?_insert_other _ _ different, find?_insert_same, find?_insert_same]
  · by_cases second : k = other
    · subst second
      rw [find?_insert_same, find?_insert_other _ _ first, find?_insert_same]
    · rw [find?_insert_other _ _ second, find?_insert_other _ _ first,
        find?_insert_other _ _ first, find?_insert_other _ _ second]

/-- An entry with a key above all others comes last. -/
theorem insertEntry_of_above {entries : List (String × α)}
    (above : ∀ entry ∈ entries, entry.1 < key) :
    insertEntry key value entries = entries ++ [(key, value)] := by
  induction entries with
  | nil => rfl
  | cons entry rest ih =>
      have less := above entry List.mem_cons_self
      have notLess : ¬ key < entry.1 := String.lt_asymm less
      have different : key ≠ entry.1 := by
        intro same
        exact String.lt_irrefl key (same ▸ less)
      simp only [insertEntry]
      rw [if_neg notLess, if_neg different,
        ih fun later member => above later (List.mem_cons_of_mem _ member)]
      rfl

theorem mem_of_mem_ofList {entries : List (String × α)} {entry : String × α}
    (member : entry ∈ (ofList entries).entries) : entry ∈ entries := by
  have grown : ∀ (rest : List (String × α)) (map : SortedMap α),
      entry ∈ (rest.foldl (fun map entry => map.insert entry.1 entry.2) map).entries →
        entry ∈ map.entries ∨ entry ∈ rest := by
    intro rest
    induction rest with
    | nil => exact fun map found => .inl found
    | cons first rest ih =>
        intro map found
        rcases ih _ found with before | later
        · rcases mem_insertEntry before with rfl | old
          · exact .inr List.mem_cons_self
          · exact .inl old
        · exact .inr (List.mem_cons_of_mem _ later)
  rcases grown entries empty member with before | listed
  · exact nomatch before
  · exact listed

theorem ofList_entries (map : SortedMap α) : ofList map.entries = map := by
  have extended : ∀ (rest : List (String × α)) (start : SortedMap α),
      (start.entries ++ rest).Pairwise (fun a b => a.1 < b.1) →
        (rest.foldl (fun map entry => map.insert entry.1 entry.2) start).entries =
          start.entries ++ rest := by
    intro rest
    induction rest with
    | nil => simp
    | cons entry rest ih =>
        intro start ascending
        obtain ⟨_, _, below⟩ := List.pairwise_append.mp ascending
        have added : (start.insert entry.1 entry.2).entries = start.entries ++ [entry] :=
          insertEntry_of_above fun early member => below early member entry List.mem_cons_self
        rw [List.foldl_cons, ih _ (by rw [added]; simpa using ascending), added]
        simp
  exact ext_entries (extended map.entries empty map.ascending)

/-! ## Maps with other values -/

variable {β : Type} {f : α → Option β}

def entryWith? (f : α → Option β) (entry : String × α) : Option (String × β) :=
  (f entry.2).map (entry.1, ·)

/-- The map with each value changed, if all of them can be. -/
def traverse? (f : α → Option β) (map : SortedMap α) : Option (SortedMap β) :=
  (map.entries.mapM (entryWith? f)).map ofList

theorem map_fst_of_mapM {entries : List (String × α)} {changed : List (String × β)}
    (all : entries.mapM (entryWith? f) = some changed) :
    changed.map (·.1) = entries.map (·.1) := by
  induction entries generalizing changed with
  | nil =>
      obtain rfl := Option.some.inj all
      rfl
  | cons entry entries ih =>
      rw [List.mapM_cons] at all
      obtain ⟨first, firstChanged, all⟩ := Option.bind_eq_some_iff.mp all
      obtain ⟨rest, restChanged, all⟩ := Option.bind_eq_some_iff.mp all
      obtain rfl := Option.some.inj all
      obtain ⟨value, _, rfl⟩ := Option.map_eq_some_iff.mp firstChanged
      rw [List.map_cons, List.map_cons, ih restChanged]

theorem find?_of_mapM {entries : List (String × α)} {changed : List (String × β)}
    (all : entries.mapM (entryWith? f) = some changed) (key : String) :
    (changed.find? (·.1 == key)).map (·.2) =
      ((entries.find? (·.1 == key)).map (·.2)).bind f := by
  induction entries generalizing changed with
  | nil =>
      obtain rfl := Option.some.inj all
      rfl
  | cons entry entries ih =>
      rw [List.mapM_cons] at all
      obtain ⟨first, firstChanged, all⟩ := Option.bind_eq_some_iff.mp all
      obtain ⟨rest, restChanged, all⟩ := Option.bind_eq_some_iff.mp all
      obtain rfl := Option.some.inj all
      obtain ⟨value, known, rfl⟩ := Option.map_eq_some_iff.mp firstChanged
      by_cases same : entry.1 = key
      · simp [same, known]
      · simpa [same] using ih restChanged

theorem find?_of_traverse? {map : SortedMap α} {changed : SortedMap β}
    (all : map.traverse? f = some changed) (key : String) :
    changed.find? key = (map.find? key).bind f := by
  obtain ⟨entries, each, rfl⟩ := Option.map_eq_some_iff.mp all
  have ascending : entries.Pairwise (fun a b => a.1 < b.1) := by
    have keys := List.pairwise_map.mpr map.ascending
    rw [← map_fst_of_mapM each, List.pairwise_map] at keys
    exact keys
  have same : ofList entries = ⟨entries, ascending⟩ := ofList_entries ⟨entries, ascending⟩
  rw [same]
  exact find?_of_mapM each key

theorem isSome_traverse? {map : SortedMap α} :
    (map.traverse? f).isSome = map.entries.all fun entry => (f entry.2).isSome := by
  rw [traverse?, Option.isSome_map]
  induction map.entries with
  | nil => rfl
  | cons entry entries ih =>
      rw [List.mapM_cons, List.all_cons, ← ih]
      cases known : f entry.2 with
      | none => simp [entryWith?, known]
      | some value => cases entries.mapM (entryWith? f) <;> simp [entryWith?, known]

end EnergyAudit.SortedMap
