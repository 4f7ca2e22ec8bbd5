import EnergyAudit.Json.Record
import EnergyAudit.Proofs.Json.RoundTrip

/-! # Fields read back

Numbers of a fixed width are read from the whole numbers that they are written as, and the fields of
a record from the members that are written for them. -/

namespace EnergyAudit.Json

theorem asWord64?_ofWord64 (n : UInt64) : asWord64? (ofWord64 n) = some n := by
  have bound : n.toNat < UInt64.size := n.toNat_lt_size
  simp [asWord64?, ofWord64, asNatBelow?, bound]

theorem readsBack_ofWord64 (n : UInt64) : (ofWord64 n).ReadsBack := by
  have bound : n.toNat < UInt64.size := n.toNat_lt_size
  exact ⟨by omega, by omega⟩

theorem optional_ofWord64 (n : UInt64) :
    Json.optional asWord64? (some (ofWord64 n)) = some (some n) := by
  change (asWord64? (ofWord64 n)).map some = some (some n)
  rw [asWord64?_ofWord64, Option.map_some]

theorem asWord32?_ofWord32 (n : UInt32) : asWord32? (ofWord32 n) = some n := by
  have bound : n.toNat < UInt32.size := n.toNat_lt_size
  simp [asWord32?, ofWord32, asNatBelow?, bound]

theorem readsBack_ofWord32 (n : UInt32) : (ofWord32 n).ReadsBack := by
  have bound : n.toNat < UInt32.size := n.toNat_lt_size
  have sizes : UInt32.size ≤ UInt64.size := by decide
  exact ⟨by omega, by omega⟩

theorem asSigned64?_ofSigned64 (n : Int64) : asSigned64? (ofSigned64 n) = some n := by
  have bounds := And.intro n.minValue_le_toInt n.toInt_le
  simp only [asSigned64?, ofSigned64, Count.signed?]
  rw [if_pos bounds, Int64.ofInt_toInt]

theorem readsBack_ofSigned64 (n : Int64) : (ofSigned64 n).ReadsBack := by
  have low := n.le_toInt
  have high := n.toInt_lt
  have size : UInt64.size = 2 ^ 64 := rfl
  exact ⟨by omega, by omega⟩

theorem filter_name_eq {members : List (String × Json)} {member : String × Json}
    (different : (members.map (·.1)).Nodup) (present : member ∈ members) :
    members.filter (·.1 == member.1) = [member] := by
  induction members with
  | nil => contradiction
  | cons first rest ih =>
      rw [List.map_cons, List.nodup_cons] at different
      obtain ⟨apart, others⟩ := different
      rcases List.mem_cons.mp present with rfl | later
      · have nothing : rest.filter (·.1 == member.1) = [] := by
          rw [List.filter_eq_nil_iff]
          intro other found
          rw [beq_iff_eq]
          exact fun same => apart (List.mem_map.mpr ⟨other, found, same⟩)
        rw [List.filter_cons, if_pos (beq_self_eq_true _), nothing]
      · have unlike : ¬ (first.1 == member.1) = true := by
          rw [beq_iff_eq]
          exact fun same => apart (List.mem_map.mpr ⟨member, later, same.symm⟩)
        rw [List.filter_cons, if_neg unlike, ih others later]

theorem mapM_eq_some_map {α β : Type} {f : α → Option β} {g : α → β} {items : List α}
    (each : ∀ item ∈ items, f item = some (g item)) : items.mapM f = some (items.map g) := by
  induction items with
  | nil => rfl
  | cons item items ih =>
      rw [List.mapM_cons, each item List.mem_cons_self,
        ih fun later member => each later (List.mem_cons_of_mem _ member)]
      rfl

theorem asList?_map {α : Type} {decode : Json → Option α} {encode : α → Json}
    (each : ∀ item, decode (encode item) = some item) (items : List α) :
    asList? decode (.arr (items.map encode)) = some items := by
  have decoded : items.mapM (decode ∘ encode) = some (items.map fun item => item) :=
    mapM_eq_some_map fun item _ => each item
  rw [asList?, List.mapM_map, decoded, List.map_id']

/-- The fields of a record that has a member for each of them. -/
theorem fields?_plain {partly : Bool} {names : List FieldNames} {members : List (String × Json)}
    (plain : names = members.map fun member => field member.1)
    (different : (names.map FieldNames.name).Nodup) :
    fields? partly names (.obj members) = some (members.map fun member => some member.2) := by
  subst plain
  have keys : (members.map (·.1)).Nodup := by
    rwa [List.map_map] at different
  simp only [fields?, List.mapM_map]
  apply mapM_eq_some_map
  intro member present
  have only := filter_name_eq keys present
  simp [findField, field, FieldNames.matches, only]

theorem decode_render {α : Type} {decode : Json → Option α} {document : Json} {value : α}
    (readsBack : document.ReadsBack) (decoded : decode document = some value) :
    (parse? document.render).bind decode = some value := by
  rw [parse?_render_alone readsBack, Option.bind_some, decoded]

/-- A record is read from its text if its doubles are, which finite ones are assumed to be. -/
theorem decode_render_of_doubles {α : Type} {decode : Json → Option α} {document : Json}
    {value : α} {doubles : List Float}
    (readsBack : (∀ x ∈ doubles, DoubleReadsBack x) → document.ReadsBack)
    (decoded : decode document = some value) (finite : ∀ x ∈ doubles, x.isFinite = true)
    (assumed : ∀ x ∈ doubles, x.isFinite = true → DoubleReadsBack x) :
    (parse? document.render).bind decode = some value := by
  apply decode_render _ decoded
  apply readsBack
  intro x double
  exact assumed x double (finite x double)

end EnergyAudit.Json
