import EnergyAudit.Json.Record
import EnergyAudit.Proofs.Json.Range

/-! # Members of an object

Of the members with one key the last one counts.  It stays so when the keys are written otherwise,
as long as different keys stay different, and when the values are changed.  A field is taken from
the one member that has one of its names. -/

namespace EnergyAudit.Json

theorem any_mergedMembers (members : List (String × Json)) (key : String) :
    (mergedMembers members).any (·.1 == key) = members.any (·.1 == key) := by
  induction members generalizing key with
  | nil => rfl
  | cons member members ih =>
      obtain ⟨name, value⟩ := member
      simp only [mergedMembers]
      split
      case isTrue again =>
          rw [ih] at again
          rw [ih, List.any_cons]
          cases same : name == key with
          | true =>
              rw [← beq_iff_eq.mp same, again]
              rfl
          | false => rfl
      case isFalse => rw [List.any_cons, List.any_cons, ih]

theorem mergedMembers_subset {member : String × Json} {members : List (String × Json)} :
    ∀ other ∈ mergedMembers members, other ∈ mergedMembers (member :: members) := by
  intro other found
  simp only [mergedMembers]
  split
  · exact found
  · exact List.mem_cons_of_mem _ found

theorem mem_mergedMembers {other : String × Json} {members : List (String × Json)}
    (found : other ∈ mergedMembers members) : ∃ member ∈ members, member.1 = other.1 := by
  have named : (mergedMembers members).any (·.1 == other.1) = true :=
    List.any_eq_true.mpr ⟨other, found, beq_self_eq_true _⟩
  rw [any_mergedMembers, List.any_eq_true] at named
  obtain ⟨member, present, same⟩ := named
  exact ⟨member, present, beq_iff_eq.mp same⟩

theorem exists_mergedMembers {member : String × Json} {members : List (String × Json)}
    (present : member ∈ members) : ∃ other ∈ mergedMembers members, other.1 = member.1 := by
  have named : members.any (·.1 == member.1) = true :=
    List.any_eq_true.mpr ⟨member, present, beq_self_eq_true _⟩
  rw [← any_mergedMembers, List.any_eq_true] at named
  obtain ⟨other, found, same⟩ := named
  exact ⟨other, found, beq_iff_eq.mp same⟩

/-- Keys that stay different keep their last members. -/
theorem mergedMembers_rename {rename : String → String} {members : List (String × Json)}
    (different : ∀ a ∈ members, ∀ b ∈ members, rename a.1 = rename b.1 → a.1 = b.1) :
    mergedMembers (members.map fun member => (rename member.1, member.2)) =
      (mergedMembers members).map fun member => (rename member.1, member.2) := by
  induction members with
  | nil => rfl
  | cons member members ih =>
      obtain ⟨key, value⟩ := member
      have rest := ih fun a foundA b foundB =>
        different a (List.mem_cons_of_mem _ foundA) b (List.mem_cons_of_mem _ foundB)
      have again : ((mergedMembers members).map fun m => (rename m.1, m.2)).any
          (·.1 == rename key) = (mergedMembers members).any (·.1 == key) := by
        rw [List.any_map, Bool.eq_iff_iff, List.any_eq_true, List.any_eq_true]
        simp only [Function.comp_apply, beq_iff_eq]
        constructor
        · rintro ⟨other, found, same⟩
          obtain ⟨source, present, named⟩ := mem_mergedMembers found
          have keys := different source (List.mem_cons_of_mem _ present) (key, value)
            List.mem_cons_self (by rw [named, same])
          exact ⟨other, found, named.symm.trans keys⟩
        · rintro ⟨other, found, same⟩
          exact ⟨other, found, congrArg rename same⟩
      simp only [List.map_cons, mergedMembers, rest, again]
      split <;> rfl

/-- Values that are changed alike before and after are changed alike where the last one counts. -/
theorem mergedMembers_revalue (revalue : String → Json → Json) {members : List (String × Json)}
    (values : ∀ member ∈ members, (member.1, member.2.merged) ∈ mergedMembers members →
      (revalue member.1 member.2).merged = revalue member.1 member.2.merged) :
    mergedMembers (members.map fun member => (member.1, revalue member.1 member.2)) =
      (mergedMembers members).map fun member => (member.1, revalue member.1 member.2) := by
  induction members with
  | nil => rfl
  | cons member members ih =>
      obtain ⟨key, value⟩ := member
      have rest := ih fun later found kept =>
        values later (List.mem_cons_of_mem _ found) (mergedMembers_subset _ kept)
      have again : ((mergedMembers members).map fun m => (m.1, revalue m.1 m.2)).any
          (·.1 == key) = (mergedMembers members).any (·.1 == key) := by
        rw [List.any_map]
        rfl
      simp only [List.map_cons, mergedMembers, rest, again]
      split
      case isTrue => rfl
      case isFalse last =>
          have kept : (key, value.merged) ∈ mergedMembers ((key, value) :: members) := by
            simp only [mergedMembers]
            rw [if_neg last]
            exact List.mem_cons_self
          rw [List.map_cons, values (key, value) List.mem_cons_self kept]

theorem member?_of_mem_mergedMembers {key : String} {value : Json}
    {members : List (String × Json)} (found : (key, value) ∈ mergedMembers members) :
    member? (mergedMembers members) key = some value := by
  induction members with
  | nil => contradiction
  | cons member members ih =>
      simp only [mergedMembers] at found ⊢
      split at found
      case isTrue again =>
          rw [if_pos again]
          exact ih found
      case isFalse last =>
          rw [if_neg last]
          rcases List.mem_cons.mp found with same | found
          · obtain ⟨rfl, rfl⟩ := Prod.mk.inj same
            simp [member?]
          · have different : (member.1 == key) = false := by
              rw [beq_eq_false_iff_ne]
              rintro rfl
              exact last (List.any_eq_true.mpr ⟨_, found, beq_self_eq_true _⟩)
            simpa [member?, different] using ih found

theorem member?_eq_none_iff {members : List (String × Json)} {key : String} :
    member? members key = none ↔ members.any (·.1 == key) = false := by
  simp [member?]

theorem member?_revalue (revalue : String → Json → Json) (members : List (String × Json))
    (key : String) :
    member? (members.map fun member => (member.1, revalue member.1 member.2)) key =
      (member? members key).map (revalue key) := by
  induction members with
  | nil => rfl
  | cons member members ih =>
      unfold member? at ih ⊢
      rw [List.map_cons, List.find?_cons, List.find?_cons]
      cases same : member.1 == key with
      | true =>
          obtain rfl := beq_iff_eq.mp same
          rfl
      | false => exact ih

theorem membersReadable_map {depth : Nat} {change : String × Json → String × Json}
    {members : List (String × Json)}
    (values : ∀ member, isReadable depth (change member).2 = isReadable depth member.2) :
    membersReadable depth (members.map change) = membersReadable depth members := by
  induction members with
  | nil => rfl
  | cons member members ih => rw [List.map_cons, membersReadable, membersReadable, ih, values]

theorem exists_of_mapM {α β : Type} {f : α → Option β} {items : List α} {results : List β}
    {item : α} (whole : items.mapM f = some results) (member : item ∈ items) :
    ∃ result ∈ results, f item = some result := by
  have listed : f item ∈ results.map some := by
    rw [← map_of_mapM whole]
    exact List.mem_map_of_mem member
  obtain ⟨result, found, same⟩ := List.mem_map.mp listed
  exact ⟨result, found, same.symm⟩

theorem mapM_congr_mem {α β : Type} {f g : α → Option β} {items : List α}
    (same : ∀ item ∈ items, f item = g item) : items.mapM f = items.mapM g := by
  induction items with
  | nil => rfl
  | cons item items ih =>
      rw [List.mapM_cons, List.mapM_cons, same item List.mem_cons_self,
        ih fun later found => same later (List.mem_cons_of_mem _ found)]

/-- A field does not depend on which of its names it stands under. -/
theorem findField_rename {rename : String → String} {names : FieldNames}
    (alike : ∀ key, names.matches (rename key) = names.matches key)
    (members : List (String × Json)) :
    findField (members.map fun member => (rename member.1, member.2)) names =
      findField members names := by
  unfold findField
  rw [List.filter_map]
  have kept : (fun member : String × Json => names.matches (rename member.1)) =
      (names.matches ·.1) := by
    funext member
    exact alike member.1
  simp only [Function.comp_def, kept]
  cases members.filter (names.matches ·.1) with
  | nil => rfl
  | cons first rest =>
      cases rest with
      | nil => rfl
      | cons second rest => rfl

theorem findField_revalue (revalue : String → Json → Json) (members : List (String × Json))
    (name : String) :
    findField (members.map fun member => (member.1, revalue member.1 member.2)) (field name) =
      (findField members (field name)).map (Option.map (revalue name)) := by
  unfold findField
  rw [List.filter_map]
  simp only [Function.comp_def]
  cases listed : members.filter ((field name).matches ·.1) with
  | nil => rfl
  | cons first rest =>
      cases rest with
      | nil =>
          have kept : first ∈ members.filter ((field name).matches ·.1) := by
            rw [listed]
            exact List.mem_singleton_self first
          have named : first.1 = name := by
            simpa [field, FieldNames.matches] using (List.mem_filter.mp kept).2
          subst named
          rfl
      | cons second rest => rfl

/-- The members that a field is taken from are one member. -/
theorem eq_of_findField {members : List (String × Json)} {names : FieldNames}
    {value : Option Json} (found : findField members names = some value) {a b : String × Json}
    (memberA : a ∈ members) (memberB : b ∈ members) (matchA : names.matches a.1 = true)
    (matchB : names.matches b.1 = true) : a = b := by
  have listedA : a ∈ members.filter (names.matches ·.1) := List.mem_filter.mpr ⟨memberA, matchA⟩
  have listedB : b ∈ members.filter (names.matches ·.1) := List.mem_filter.mpr ⟨memberB, matchB⟩
  unfold findField at found
  cases listed : members.filter (names.matches ·.1) with
  | nil =>
      rw [listed] at listedA
      contradiction
  | cons first rest =>
      cases rest with
      | nil =>
          rw [listed, List.mem_singleton] at listedA listedB
          rw [listedA, listedB]
      | cons second rest =>
          rw [listed] at found
          contradiction

theorem member?_of_findField {members : List (String × Json)} {name : String}
    {value : Option Json} (found : findField members (field name) = some value) :
    member? members name = value := by
  have same : (fun member : String × Json => (field name).matches member.1) = (·.1 == name) := by
    funext member
    simp [field, FieldNames.matches]
  unfold findField at found
  rw [same] at found
  unfold member?
  rw [← List.head?_filter]
  split at found
  case h_1 none =>
      rw [none]
      exact Option.some.inj found
  case h_2 member only =>
      rw [only]
      exact Option.some.inj found
  case h_3 => contradiction

theorem mem_of_member? {members : List (String × Json)} {key : String} {value : Json}
    (found : member? members key = some value) : ∃ member ∈ members, member.2 = value := by
  obtain ⟨member, first, rfl⟩ := Option.map_eq_some_iff.mp found
  exact ⟨member, List.mem_of_find?_eq_some first, rfl⟩

theorem mem_of_findField {members : List (String × Json)} {names : FieldNames} {value : Json}
    (found : findField members names = some (some value)) :
    ∃ member ∈ members, member.2 = value := by
  unfold findField at found
  split at found
  · exact nomatch found
  · rename_i member listed
    obtain rfl := Option.some.inj (Option.some.inj found)
    have kept : member ∈ members.filter (names.matches ·.1) := by
      rw [listed]
      exact List.mem_singleton_self member
    exact ⟨member, (List.mem_filter.mp kept).1, rfl⟩
  · contradiction

/-- The fields of a record in range are in range. -/
theorem inRange_of_fields? {partly : Bool} {names : List FieldNames} {record value : Json}
    {values : List (Option Json)} (read : fields? partly names record = some values)
    (inRange : record.InRange) (member : some value ∈ values) : value.InRange := by
  unfold fields? at read
  split at read
  case h_1 members =>
      obtain ⟨field, _, found⟩ := exists_of_mem_mapM read member
      obtain ⟨source, present, rfl⟩ := mem_of_findField found
      exact membersInRange_iff.mp inRange source present
  case h_2 items =>
      split at read
      · obtain rfl := Option.some.inj read
        rcases List.mem_append.mp member with given | missing
        · obtain ⟨item, present, same⟩ := List.mem_map.mp given
          obtain rfl := Option.some.inj same
          exact itemsInRange_iff.mp inRange item present
        · exact nomatch (List.mem_replicate.mp missing).2
      · contradiction
  case h_3 => contradiction

theorem isFinite_of_withDefault {value : Option Json} {x : Float}
    (read : withDefault 0.0 asDouble? value = some x)
    (inRange : ∀ present, value = some present → present.InRange) : x.isFinite = true := by
  cases value with
  | none =>
      obtain rfl := Option.some.inj read
      rfl
  | some present =>
      have range := inRange present rfl
      cases present with
      | float y =>
          obtain rfl := Option.some.inj read
          exact range
      | int n =>
          obtain rfl := Option.some.inj read
          exact Double.isFinite_doubleOfInt (Nat.lt_trans range (by decide))
      | null | bool value | str value | arr items | obj members | unreadable => contradiction

end EnergyAudit.Json
