import EnergyAudit.Settings.Conversion
import EnergyAudit.Settings.Layer
import Mathlib.Data.List.Induction

/-! # What a layer makes of a setting

A setting is a member of a member of a table.  A layer that gives the group of the setting as tables
only, and with no index in a key, lays the values that it has for the setting over the value that
was there, one after the other, and nothing else of the layer matters.  Of all values laid over one
another the last one counts, unless it is an empty table, in which there is nothing to lay. -/

namespace EnergyAudit.ConfigValue

/-- The value inside of the tables that the steps lead through; none if a step leads into a list. -/
def nest? (value : ConfigValue) : List KeyStep → Option ConfigValue
  | [] => some value
  | .member name :: steps => (nest? value steps).map fun inner => .table [(name, inner)]
  | .item _ :: _ => none

/-- What an entry of a layer gives for the first key of its path. -/
def entryValue? (entry : String × ConfigValue) : Option ConfigValue :=
  nest? entry.2 (KeyPath.ofKey entry.1).steps

/-- The first key of the path of an entry, in small letters. -/
def entryKey (entry : String × ConfigValue) : String :=
  Text.lowercase (KeyPath.ofKey entry.1).head

/-- Every entry for the group gives it as a table. -/
def GivesTables (group : String) (layer : List (String × ConfigValue)) : Prop :=
  ∀ entry ∈ layer, entryKey entry = group →
    ∃ members, entryValue? entry = some (.table members)

instance (value : Option ConfigValue) : Decidable (∃ members, value = some (.table members)) :=
  match value with
  | some (.table members) => isTrue ⟨members, rfl⟩
  | none | some .null | some (.bool _) | some (.int _) | some (.float _) | some (.str _)
  | some (.list _) => isFalse nofun

instance (group : String) (layer : List (String × ConfigValue)) :
    Decidable (GivesTables group layer) :=
  inferInstanceAs (Decidable (∀ entry ∈ layer, entryKey entry = group → _))

/-- The values of the members whose key is the one given, but for capitals. -/
def valuesAt (key : String) (members : List (String × ConfigValue)) : List ConfigValue :=
  (members.filter fun member => Text.lowercase member.1 == key).map (·.2)

/-- The values of a setting in a table that an entry gives for its group. -/
def entryValues (group key : String) (entry : String × ConfigValue) : List ConfigValue :=
  if entryKey entry = group then valuesAt key ((entryValue? entry).getD .null).members else []

/-- The values that a layer has for a setting, in order. -/
def layerValues (group key : String) (layer : List (String × ConfigValue)) : List ConfigValue :=
  layer.flatMap (entryValues group key)

/-- The value of a setting in a table of groups. -/
def setting? (group key : String) (table : ConfigValue) : Option ConfigValue :=
  (get? table.members group).bind fun members => get? members.members key

/-- The group is a table, or missing. -/
def HasTable (group : String) (table : ConfigValue) : Prop :=
  ∀ value, get? table.members group = some value → ∃ members, value = .table members

/-- What is there after a value was laid over it. -/
def laidOver (current : Option ConfigValue) (value : ConfigValue) : Option ConfigValue :=
  some (overlay current value)

variable {group key : String} {value inner existing table merged : ConfigValue}
  {members incoming layer : List (String × ConfigValue)} {entry : String × ConfigValue}

/-! ## Members -/

theorem get?_put (key : String) (value : ConfigValue) (members : List (String × ConfigValue))
    (other : String) :
    get? (put key value members) other =
      if other = key then some value else get? members other := by
  induction members with
  | nil =>
      by_cases same : other = key
      · simp [put, get?, same]
      · simp [put, get?, same, Ne.symm same]
  | cons member members ih =>
      unfold get? at ih ⊢
      rw [put]
      split
      · rename_i replaced
        rw [beq_iff_eq] at replaced
        by_cases same : other = key
        · simp [same]
        · simp [same, replaced, Ne.symm same]
      · rename_i kept
        rw [beq_iff_eq] at kept
        rw [List.find?_cons, List.find?_cons]
        cases here : member.1 == other with
        | false => exact ih
        | true =>
            obtain rfl := eq_of_beq here
            simp [kept]

theorem mem_keys_put {name : String} : name ∈ (put key value members).map (·.1) ↔
    name = key ∨ name ∈ members.map (·.1) := by
  induction members with
  | nil => simp [put]
  | cons member members ih =>
      rw [put]
      split
      · rename_i replaced
        rw [beq_iff_eq] at replaced
        simp [replaced]
      · rw [List.map_cons, List.mem_cons, ih, List.map_cons, List.mem_cons]
        exact or_left_comm

theorem nodup_keys_put (distinct : (members.map (·.1)).Nodup) :
    ((put key value members).map (·.1)).Nodup := by
  induction members with
  | nil => simp [put]
  | cons member members ih =>
      rw [List.map_cons, List.nodup_cons] at distinct
      rw [put]
      split
      · rename_i replaced
        rw [beq_iff_eq] at replaced
        rw [List.map_cons, List.nodup_cons, ← replaced]
        exact distinct
      · rename_i kept
        rw [beq_iff_eq] at kept
        rw [List.map_cons, List.nodup_cons, mem_keys_put, not_or]
        exact ⟨⟨kept, distinct.1⟩, ih distinct.2⟩

/-! ## Tables laid over one another -/

theorem overlayMembers_cons (existing : ConfigValue) (member : String × ConfigValue)
    (incoming : List (String × ConfigValue)) :
    overlayMembers existing (member :: incoming) =
      overlayMembers (.table (put (Text.lowercase member.1)
        (overlay (get? existing.members (Text.lowercase member.1)) member.2) existing.members))
        incoming := by
  obtain ⟨name, value⟩ := member
  rw [overlayMembers]

theorem overlay_table (existing : Option ConfigValue) (incoming : List (String × ConfigValue)) :
    overlay existing (.table incoming) = overlayMembers (existing.getD (.table [])) incoming := by
  rw [overlay]

theorem exists_overlayMembers_table (members incoming : List (String × ConfigValue)) :
    ∃ merged, overlayMembers (.table members) incoming = .table merged := by
  induction incoming generalizing members with
  | nil => exact ⟨members, by rw [overlayMembers]⟩
  | cons member incoming ih =>
      rw [overlayMembers_cons]
      exact ih _

/-- The value of a key after a table was laid over another is the one before with the values of the
key laid over it. -/
theorem get?_overlayMembers (key : String) (existing : ConfigValue)
    (incoming : List (String × ConfigValue)) :
    get? (overlayMembers existing incoming).members key =
      (valuesAt key incoming).foldl laidOver (get? existing.members key) := by
  induction incoming generalizing existing with
  | nil => rw [overlayMembers]; rfl
  | cons member incoming ih =>
      rw [overlayMembers_cons, ih, valuesAt, valuesAt, ConfigValue.members, get?_put]
      by_cases same : Text.lowercase member.1 = key
      · rw [if_pos same.symm, List.filter_cons_of_pos (by simp [same]), List.map_cons,
          List.foldl_cons, same, laidOver]
      · rw [if_neg (Ne.symm same), List.filter_cons_of_neg (by simp [same])]

/-! ## One entry -/

/-- An entry without an index is a table in itself, which is laid over what is there. -/
theorem assign?_eq_overlayMembers {steps : List KeyStep} (name : String)
    (nested : nest? value steps = some inner) :
    assign? value existing (.member name) steps =
      some (overlayMembers existing [(name, inner)]) := by
  induction steps generalizing existing name inner with
  | nil =>
      obtain rfl := Option.some.inj nested
      rw [assign?, overlayMembers_cons, overlayMembers]
  | cons step steps ih =>
      cases step with
      | item index => exact nomatch nested
      | member next =>
          obtain ⟨deeper, found, rfl⟩ := Option.map_eq_some_iff.mp nested
          -- A missing value is filled in as a null here and as an empty table there.
          have filled : overlayMembers
                ((get? existing.members (Text.lowercase name)).getD .null) [(next, deeper)] =
              overlay (get? existing.members (Text.lowercase name)) (.table [(next, deeper)]) := by
            rw [overlay_table, overlayMembers_cons, overlayMembers_cons]
            cases get? existing.members (Text.lowercase name) <;> rfl
          rw [assign?, ih next found, Option.map_some, filled, overlayMembers_cons, overlayMembers]

theorem exists_put_of_assign? {name : String} {steps : List KeyStep}
    (assigned : assign? value existing (.member name) steps = some merged) :
    ∃ inner, merged = .table (put (Text.lowercase name) inner existing.members) := by
  cases steps with
  | nil =>
      rw [assign?] at assigned
      exact ⟨_, (Option.some.inj assigned).symm⟩
  | cons step steps =>
      rw [assign?] at assigned
      obtain ⟨inner, -, same⟩ := Option.map_eq_some_iff.mp assigned
      exact ⟨inner, same.symm⟩

/-- An entry for another group leaves the group as it is. -/
theorem get?_assignKey?_of_ne (other : entryKey entry ≠ group)
    (assigned : assignKey? table entry.1 entry.2 = some merged) :
    get? merged.members group = get? table.members group := by
  obtain ⟨inner, rfl⟩ := exists_put_of_assign? assigned
  rw [ConfigValue.members, get?_put]
  exact if_neg (Ne.symm other)

/-- An entry that gives its group as a table lays the table over the group. -/
theorem get?_assignKey?_of_table (given : entryValue? entry = some (.table incoming))
    (assigned : assignKey? table entry.1 entry.2 = some merged) :
    get? merged.members (entryKey entry) = some
      (overlayMembers ((get? table.members (entryKey entry)).getD (.table [])) incoming) := by
  rw [assignKey?, assign?_eq_overlayMembers _ given, overlayMembers_cons, overlayMembers,
    overlay_table] at assigned
  obtain rfl := Option.some.inj assigned
  rw [ConfigValue.members, get?_put]
  exact if_pos rfl

theorem hasTable_getD (hasTable : HasTable group table) :
    ∃ members, (get? table.members group).getD (.table []) = .table members := by
  cases found : get? table.members group with
  | none => exact ⟨[], rfl⟩
  | some value => exact hasTable value found

theorem setting?_eq_getD (group key : String) (table : ConfigValue) : setting? group key table =
    get? ((get? table.members group).getD (.table [])).members key := by
  rw [setting?]
  cases get? table.members group <;> rfl

/-- An entry lays its values for a setting over the value that was there. -/
theorem setting?_assignKey? (key : String) (gives : entryKey entry = group →
      ∃ members, entryValue? entry = some (.table members))
    (assigned : assignKey? table entry.1 entry.2 = some merged) :
    setting? group key merged =
      (entryValues group key entry).foldl laidOver (setting? group key table) := by
  by_cases same : entryKey entry = group
  · obtain ⟨incoming, given⟩ := gives same
    subst same
    rw [setting?_eq_getD, setting?_eq_getD, get?_assignKey?_of_table given assigned,
      Option.getD_some, get?_overlayMembers, entryValues, if_pos rfl, given]
    rfl
  · rw [entryValues, if_neg same, setting?, setting?, get?_assignKey?_of_ne same assigned]
    rfl

/-- The group is a table after an entry if it was one before, and if the entry has values for a
setting. -/
theorem hasTable_assignKey? (key : String) (gives : entryKey entry = group →
      ∃ members, entryValue? entry = some (.table members))
    (form : HasTable group table ∨ entryValues group key entry ≠ [])
    (assigned : assignKey? table entry.1 entry.2 = some merged) : HasTable group merged := by
  by_cases same : entryKey entry = group
  · obtain ⟨incoming, given⟩ := gives same
    subst same
    intro value found
    rw [get?_assignKey?_of_table given assigned] at found
    obtain rfl := Option.some.inj found
    rcases form with hasTable | some
    · obtain ⟨before, form⟩ := hasTable_getD hasTable
      rw [form]
      exact exists_overlayMembers_table before incoming
    · rw [entryValues, if_pos rfl, given] at some
      match incoming, some with
      | member :: incoming, _ =>
          rw [overlayMembers_cons]
          exact exists_overlayMembers_table _ _
  · rw [entryValues, if_neg same] at form
    rw [HasTable, get?_assignKey?_of_ne same assigned]
    exact form.resolve_right fun some => some rfl

/-! ## A whole layer -/

theorem addLayer?_cons (table : ConfigValue) (entry : String × ConfigValue)
    (layer : List (String × ConfigValue)) : addLayer? table (entry :: layer) =
      (assignKey? table entry.1 entry.2).bind fun middle => addLayer? middle layer :=
  rfl

theorem addLayer?_append (table : ConfigValue) (lower upper : List (String × ConfigValue)) :
    addLayer? table (lower ++ upper) =
      (addLayer? table lower).bind fun middle => addLayer? middle upper :=
  List.foldlM_append

theorem layerValues_cons (group key : String) (entry : String × ConfigValue)
    (layer : List (String × ConfigValue)) : layerValues group key (entry :: layer) =
      entryValues group key entry ++ layerValues group key layer :=
  rfl

/-- Whatever is laid over a table leaves a table. -/
theorem exists_table_of_addLayer? (added : addLayer? (.table members) layer = some merged) :
    ∃ members, merged = .table members := by
  induction layer generalizing members with
  | nil =>
      obtain rfl := Option.some.inj added
      exact ⟨members, rfl⟩
  | cons entry layer ih =>
      rw [addLayer?_cons] at added
      obtain ⟨middle, assigned, rest⟩ := Option.bind_eq_some_iff.mp added
      obtain ⟨inner, rfl⟩ := exists_put_of_assign? assigned
      exact ih rest

/-- A layer lays its values for a setting over the value that was there. -/
theorem setting?_addLayer? (key : String) (gives : GivesTables group layer)
    (added : addLayer? table layer = some merged) :
    setting? group key merged =
      (layerValues group key layer).foldl laidOver (setting? group key table) := by
  induction layer generalizing table with
  | nil =>
      obtain rfl := Option.some.inj added
      rfl
  | cons entry layer ih =>
      rw [addLayer?_cons] at added
      obtain ⟨middle, assigned, rest⟩ := Option.bind_eq_some_iff.mp added
      rw [GivesTables, List.forall_mem_cons] at gives
      rw [ih gives.2 rest, setting?_assignKey? key gives.1 assigned, layerValues_cons,
        List.foldl_append]

/-- The group is a table after a layer if it was one before, and if the layer has values for a
setting. -/
theorem hasTable_addLayer? (key : String) (gives : GivesTables group layer)
    (form : HasTable group table ∨ layerValues group key layer ≠ [])
    (added : addLayer? table layer = some merged) : HasTable group merged := by
  induction layer generalizing table with
  | nil =>
      obtain rfl := Option.some.inj added
      exact form.resolve_right fun some => some rfl
  | cons entry layer ih =>
      rw [addLayer?_cons] at added
      obtain ⟨middle, assigned, rest⟩ := Option.bind_eq_some_iff.mp added
      rw [GivesTables, List.forall_mem_cons] at gives
      refine ih gives.2 ?_ rest
      rw [layerValues_cons, ne_eq, List.append_eq_nil_iff, not_and_or, ← or_assoc] at form
      exact form.imp_left fun form => hasTable_assignKey? key gives.1 form assigned

/-! ## The value that counts -/

/-- Whether there is nothing in the value to lay over another. -/
def setsNothing : ConfigValue → Bool
  | .table members => members.isEmpty
  | _ => false

/-- The last of the values that sets something, with its keys in small letters. -/
def lastSet? (values : List ConfigValue) : Option ConfigValue :=
  (values.filter fun value => !value.setsNothing).getLast?.map (overlay none)

/-- A conversion that refuses an empty table, and of any other table looks at the keys only, so that
it makes the same of a table with some of the keys. -/
structure ReadsKeys {α : Type} (convert : ConfigValue → Option α) : Prop where
  empty : convert (.table []) = none
  keys : ∀ {members fewer : List (String × ConfigValue)} {result : α},
    convert (.table members) = some result → fewer ≠ [] → (fewer.map (·.1)).Nodup →
      (∀ name ∈ fewer.map (·.1), name ∈ members.map (·.1)) → convert (.table fewer) = some result

theorem lastSet?_append (first second : List ConfigValue) :
    lastSet? (first ++ second) = (lastSet? second).or (lastSet? first) := by
  rw [lastSet?, List.filter_append, List.getLast?_append, Option.map_or, lastSet?, lastSet?]

theorem mem_keys_overlayMembers (existing : ConfigValue)
    (incoming : List (String × ConfigValue)) (name : String) :
    name ∈ (overlayMembers existing incoming).members.map (·.1) ↔
      name ∈ existing.members.map (·.1) ∨
        name ∈ incoming.map fun member => Text.lowercase member.1 := by
  induction incoming generalizing existing with
  | nil => rw [overlayMembers, List.map_nil, List.mem_nil_iff, or_false]
  | cons member incoming ih =>
      rw [overlayMembers_cons, ih, ConfigValue.members, mem_keys_put, List.map_cons, List.mem_cons,
        or_assoc, or_left_comm]

theorem nodup_keys_overlayMembers (existing : ConfigValue)
    (incoming : List (String × ConfigValue)) (distinct : (existing.members.map (·.1)).Nodup) :
    ((overlayMembers existing incoming).members.map (·.1)).Nodup := by
  induction incoming generalizing existing with
  | nil => rwa [overlayMembers]
  | cons member incoming ih =>
      rw [overlayMembers_cons]
      exact ih _ (nodup_keys_put distinct)

/-- A table that is laid over another leaves all of its keys there. -/
theorem exists_overlay_cons (current : Option ConfigValue) (member : String × ConfigValue)
    (incoming : List (String × ConfigValue)) :
    ∃ merged own, overlay current (.table (member :: incoming)) = .table merged ∧
      overlay none (.table (member :: incoming)) = .table own ∧ own ≠ [] ∧
        (own.map (·.1)).Nodup ∧ ∀ name ∈ own.map (·.1), name ∈ merged.map (·.1) := by
  have isTable (existing : ConfigValue) :
      ∃ merged, overlayMembers existing (member :: incoming) = .table merged := by
    rw [overlayMembers_cons]
    exact exists_overlayMembers_table _ _
  obtain ⟨merged, whole⟩ := isTable (current.getD (.table []))
  obtain ⟨own, alone⟩ := isTable (.table [])
  have keys := mem_keys_overlayMembers (current.getD (.table [])) (member :: incoming)
  have ownKeys := mem_keys_overlayMembers (.table []) (member :: incoming)
  have distinct := nodup_keys_overlayMembers (.table []) (member :: incoming) List.nodup_nil
  simp only [whole, alone, ConfigValue.members, List.map_nil, List.not_mem_nil, false_or]
    at keys ownKeys distinct
  refine ⟨merged, own, by rw [overlay_table, whole], by rw [overlay_table, Option.getD_none, alone],
    ?_, distinct, fun name listed => (keys name).mpr (.inr ((ownKeys name).mp listed))⟩
  rintro rfl
  have first := (ownKeys (Text.lowercase member.1)).mpr List.mem_cons_self
  exact absurd first List.not_mem_nil

theorem lastSet?_concat_of_setsNothing {values : List ConfigValue} (nothing : value.setsNothing) :
    lastSet? (values ++ [value]) = lastSet? values := by
  rw [lastSet?_append]
  simp [lastSet?, nothing]

theorem lastSet?_concat {values : List ConfigValue} (sets : value.setsNothing = false) :
    lastSet? (values ++ [value]) = some (overlay none value) := by
  rw [lastSet?_append]
  simp [lastSet?, sets]

/-- Whatever a conversion makes of values laid over what was there, it makes of the last one that
sets something, or without one of what was there. -/
theorem orDefault_lastSet? {α : Type} {default result : α} {convert : ConfigValue → Option α}
    (reads : ReadsKeys convert) (current : Option ConfigValue) (values : List ConfigValue)
    (converted : orDefault default convert (values.foldl laidOver current) = some result) :
    orDefault default convert ((lastSet? values).or current) = some result := by
  induction values using List.reverseRecOn generalizing result with
  | nil => exact converted
  | append_singleton values value ih =>
      rw [List.foldl_append, List.foldl_cons, List.foldl_nil, laidOver] at converted
      cases value with
      | table members =>
          cases members with
          | nil =>
              rw [lastSet?_concat_of_setsNothing rfl]
              rw [overlay_table, overlayMembers] at converted
              cases before : values.foldl laidOver current with
              | none =>
                  rw [before] at converted
                  exact absurd (reads.empty.symm.trans converted) nofun
              | some value =>
                  rw [before] at converted ih
                  exact ih converted
          | cons member members =>
              rw [lastSet?_concat rfl, Option.some_or]
              obtain ⟨merged, own, whole, alone, some, distinct, keys⟩ :=
                exists_overlay_cons (values.foldl laidOver current) member members
              rw [whole] at converted
              rw [alone]
              exact reads.keys converted some distinct keys
      | null | bool | int | float | str | list =>
          rw [lastSet?_concat rfl, Option.some_or]
          rw [overlay] at converted ⊢
          exact converted

end EnergyAudit.ConfigValue
