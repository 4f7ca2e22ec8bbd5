import EnergyAudit.Proofs.Baseline.RoundTrip
import EnergyAudit.Proofs.Json.Members

/-! # Layouts of documents

A record may call five of its fields by the names that they used to have, and a document may be a
single record.  What is read does not depend on it: the names of a field are read alike, and where
the last member of a key is the one that counts it stays so when the keys are written otherwise, as
long as no field stands under both of its names. -/

namespace EnergyAudit

/-! ## Records under old names -/

namespace Baseline

/-- The name that the field used to have. -/
def formerName? (name : String) : Option String :=
  (fieldNames.find? (·.name == name)).bind (·.aliases.head?)

/-- The key of a field that is written under its old name. -/
def spelledKey (old : String → Bool) (key : String) : String :=
  if old key then (formerName? key).getD key else key

/-- The record with the fields that `old` picks under their old names. -/
def respelled (old : String → Bool) : Json → Json
  | .obj members => .obj (members.map fun member => (spelledKey old member.1, member.2))
  | value => value

/-- Whether no field of the record stands under two names. -/
def NamedOnce : Json → Prop
  | .obj members =>
      ∀ names ∈ fieldNames, ∀ a ∈ members, ∀ b ∈ members,
        names.matches a.1 = true → names.matches b.1 = true → a.1 = b.1
  | _ => True

theorem spelledKey_cases (old : String → Bool) (key : String) :
    spelledKey old key = key ∨
      ∃ names ∈ fieldNames, names.name = key ∧ spelledKey old key ∈ names.aliases := by
  unfold spelledKey formerName?
  split
  · cases found : fieldNames.find? (·.name == key) with
    | none => exact .inl rfl
    | some names =>
        cases former : names.aliases.head? with
        | none => exact .inl (by simp [former])
        | some name =>
            have named := List.find?_some found
            have member : name ∈ names.aliases := List.mem_of_mem_head? former
            refine .inr ⟨names, List.mem_of_find?_eq_some found, beq_iff_eq.mp named, ?_⟩
            simpa [former] using member
  · exact .inl rfl

theorem matches_alias : ∀ names ∈ fieldNames, ∀ others ∈ fieldNames, ∀ former ∈ others.aliases,
    names.matches former = names.matches others.name := by
  decide

theorem eq_of_alias : ∀ names ∈ fieldNames, ∀ others ∈ fieldNames, ∀ former ∈ names.aliases,
    former ∈ others.aliases → names.name = others.name := by
  decide

theorem alias_ne_baselines : ∀ names ∈ fieldNames, "baselines" ∉ names.aliases := by
  decide

theorem spelledKey_ne_baselines (old : String → Bool) {key : String}
    (different : key ≠ "baselines") : spelledKey old key ≠ "baselines" := by
  rcases spelledKey_cases old key with same | ⟨names, found, _, former⟩
  · rw [same]
    exact different
  · intro same
    rw [same] at former
    exact alias_ne_baselines names found former

/-- A field is known by each of its names. -/
theorem matches_spelledKey (old : String → Bool) {names : Json.FieldNames}
    (field : names ∈ fieldNames) (key : String) :
    names.matches (spelledKey old key) = names.matches key := by
  rcases spelledKey_cases old key with same | ⟨others, found, rfl, former⟩
  · rw [same]
  · exact matches_alias names field others found _ former

theorem matches_name (names : Json.FieldNames) : names.matches names.name = true := by
  simp [Json.FieldNames.matches]

theorem matches_of_mem_aliases {names : Json.FieldNames} {former : String}
    (member : former ∈ names.aliases) : names.matches former = true := by
  simp [Json.FieldNames.matches, member]

example : fieldNames.map (fun names => spelledKey (fun _ => true) names.name) =
    ["hardware_hash", "gpu_name", "timestamp", "benchmark_score", "power_draw_w",
      "energy_per_tflop", "issues_found", "critical_count", "warning_count", "commit_sha", "branch",
      "method"] := by
  decide

/-- Only the two names of one field are spelled alike. -/
theorem eq_or_matches_of_spelledKey_eq {old : String → Bool} {a b : String}
    (same : spelledKey old a = spelledKey old b) :
    a = b ∨ ∃ names ∈ fieldNames, names.matches a = true ∧ names.matches b = true := by
  rcases spelledKey_cases old a with keptA | ⟨names, found, rfl, former⟩
  · rcases spelledKey_cases old b with keptB | ⟨others, foundB, rfl, formerB⟩
    · exact .inl (by rw [← keptA, same, keptB])
    · rw [← same, keptA] at formerB
      exact .inr ⟨others, foundB, matches_of_mem_aliases formerB, matches_name others⟩
  · rcases spelledKey_cases old b with keptB | ⟨others, foundB, rfl, formerB⟩
    · rw [same, keptB] at former
      exact .inr ⟨names, found, matches_name names, matches_of_mem_aliases former⟩
    · rw [← same] at formerB
      exact .inl (eq_of_alias names found others foundB _ former formerB)

theorem ofJson?_respelled (old : String → Bool) (value : Json) :
    ofJson? (respelled old value) = ofJson? value := by
  have fields : Json.fields? true fieldNames (respelled old value) =
      Json.fields? true fieldNames value := by
    cases value with
    | obj members =>
        apply Json.mapM_congr_mem
        intro names field
        exact Json.findField_rename (matches_spelledKey old field) members
    | null | bool value | int value | float value | str value | arr items | unreadable => rfl
  simp only [ofJson?, fields]

theorem namedOnce_merged {value : Json} (once : NamedOnce value.merged) : NamedOnce value := by
  cases value with
  | obj members =>
      intro names field a memberA b memberB matchA matchB
      obtain ⟨lastA, foundA, keyA⟩ := Json.exists_mergedMembers memberA
      obtain ⟨lastB, foundB, keyB⟩ := Json.exists_mergedMembers memberB
      have same := once names field lastA foundA lastB foundB (keyA ▸ matchA) (keyB ▸ matchB)
      rw [← keyA, same, keyB]
  | null | bool value | int value | float value | str value | arr items | unreadable => trivial

/-- A record that is read has no field under two names. -/
theorem namedOnce_of_ofJson? {value : Json} {baseline : Baseline}
    (read : ofJson? value = some baseline) : NamedOnce value := by
  cases value with
  | obj members =>
      intro names field a memberA b memberB matchA matchB
      obtain ⟨values, fields, _⟩ := Option.bind_eq_some_iff.mp read
      obtain ⟨value, _, found⟩ := Json.exists_of_mapM fields field
      exact congrArg Prod.fst (Json.eq_of_findField found memberA memberB matchA matchB)
  | null | bool value | int value | float value | str value | arr items | unreadable => trivial

theorem merged_respelled {old : String → Bool} {value : Json} (once : NamedOnce value.merged) :
    (respelled old value).merged = respelled old value.merged := by
  have once := namedOnce_merged once
  cases value with
  | obj members =>
      simp only [respelled, Json.merged]
      -- Keys that are spelled alike would be the two names of one field.
      rw [Json.mergedMembers_rename]
      intro a memberA b memberB same
      rcases eq_or_matches_of_spelledKey_eq same with keys | ⟨names, field, matchA, matchB⟩
      · exact keys
      · exact once names field a memberA b memberB matchA matchB
  | null | bool value | int value | float value | str value | arr items | unreadable => rfl

theorem isReadable_respelled (depth : Nat) (old : String → Bool) (value : Json) :
    (respelled old value).isReadable depth = value.isReadable depth := by
  cases value with
  | obj members =>
      simp only [respelled, Json.isReadable]
      rw [Json.membersReadable_map]
      intro member
      rfl
  | null | bool value | int value | float value | str value | arr items | unreadable => rfl

/-! ## Doubles of a record -/

def doubles (baseline : Baseline) : List Float :=
  [baseline.benchmarkScoreTflops, baseline.avgPowerDrawW, baseline.energyPerTflopJoules]

theorem readsBack_of_doubles {baseline : Baseline}
    (readBack : ∀ x ∈ baseline.doubles, Json.DoubleReadsBack x) : baseline.ReadsBack := by
  simp only [doubles, List.forall_mem_cons] at readBack
  exact ⟨readBack.1, readBack.2.1, readBack.2.2.1⟩

/-- The doubles of a record that is read from a document in range are finite. -/
theorem isFinite_of_ofJson? {value : Json} {baseline : Baseline}
    (read : ofJson? value = some baseline) (inRange : value.InRange) :
    ∀ x ∈ baseline.doubles, x.isFinite = true := by
  obtain ⟨values, fields, read⟩ := Option.bind_eq_some_iff.mp read
  split at read
  case h_1 =>
      simp only [Option.bind_eq_bind, Option.bind_eq_some_iff, Option.pure_def,
        Option.some.injEq] at read
      obtain ⟨_, _, _, _, _, _, score, scoreRead, power, powerRead, energy, energyRead, _, _, _, _,
        _, _, _, _, _, _, _, _, rfl⟩ := read
      have range (present : Json) (listed : some present ∈ _) : present.InRange :=
        Json.inRange_of_fields? fields inRange listed
      simp only [doubles, List.forall_mem_cons]
      refine ⟨Json.isFinite_of_withDefault scoreRead ?_, Json.isFinite_of_withDefault powerRead ?_,
        Json.isFinite_of_withDefault energyRead ?_, nofun⟩
      · rintro present rfl
        exact range present (by simp)
      · rintro present rfl
        exact range present (by simp)
      · rintro present rfl
        exact range present (by simp)
  case h_2 => contradiction

end Baseline

namespace BaselineDocument

def doubles (document : BaselineDocument) : List Float :=
  document.baselines.entries.flatMap fun entry => entry.2.doubles

/-- The records of a map with fields under their old names, as `old` picks them for each key. -/
def respelledRecords (old : String → String → Bool) : Json → Json
  | .obj records =>
      .obj (records.map fun record => (record.1, Baseline.respelled (old record.1) record.2))
  | value => value

def respelledMember (old : Option String → String → Bool) (key : String) (value : Json) : Json :=
  if key == "baselines" then respelledRecords (fun key => old (some key)) value else value

/-- The document with fields under their old names, as `old` picks them for the key of each record.
A document that is a single record has no key for it. -/
def respelled (old : Option String → String → Bool) : Json → Json
  | .obj members =>
      if members.any (·.1 == "baselines") then
        .obj (members.map fun member => (member.1, respelledMember old member.1 member.2))
      else Baseline.respelled (old none) (.obj members)
  | value => value

/-- Whether no field of a record of the document stands under two names. -/
def NamedOnce : Json → Prop
  | .obj members =>
      match Json.member? members "baselines" with
      | some (.obj records) => ∀ record ∈ records, Baseline.NamedOnce record.2
      | some _ => True
      | none => Baseline.NamedOnce (.obj members)
  | _ => True

theorem merged_respelledRecords {old : String → String → Bool} {value : Json}
    (once : ∀ records, value.merged = .obj records →
      ∀ record ∈ records, Baseline.NamedOnce record.2) :
    (respelledRecords old value).merged = respelledRecords old value.merged := by
  cases value with
  | obj records =>
      simp only [respelledRecords, Json.merged]
      rw [Json.mergedMembers_revalue fun key record => Baseline.respelled (old key) record]
      intro record _ last
      exact Baseline.merged_respelled (once _ rfl _ last)
  | null | bool value | int value | float value | str value | arr items | unreadable => rfl

theorem respelled_records (old : Option String → String → Bool) {members : List (String × Json)}
    (listed : members.any (·.1 == "baselines") = true) :
    respelled old (.obj members) =
      .obj (members.map fun member => (member.1, respelledMember old member.1 member.2)) := by
  simp only [respelled, listed, if_true]

theorem respelled_record (old : Option String → String → Bool) {members : List (String × Json)}
    (missing : members.any (·.1 == "baselines") = false) :
    respelled old (.obj members) = Baseline.respelled (old none) (.obj members) := by
  simp only [respelled, missing, Bool.false_eq_true, if_false]

theorem merged_respelled {old : Option String → String → Bool} {tree : Json}
    (once : NamedOnce tree.merged) : (respelled old tree).merged = respelled old tree.merged := by
  cases tree with
  | obj members =>
      have same := Json.any_mergedMembers members "baselines"
      cases listed : members.any (·.1 == "baselines") with
      | true =>
          rw [listed] at same
          simp only [Json.merged]
          -- Only the last map of records has to be named once: the others are merged away.
          rw [respelled_records old listed, respelled_records old same, Json.merged,
            Json.mergedMembers_revalue]
          intro member found kept
          unfold respelledMember
          split
          case isTrue named =>
              apply merged_respelledRecords
              intro records whole
              have last := Json.member?_of_mem_mergedMembers kept
              rw [beq_iff_eq.mp named, whole] at last
              simpa only [NamedOnce, Json.merged, last] using once
          case isFalse => rfl
      | false =>
          rw [listed] at same
          have single : Baseline.NamedOnce (Json.obj members).merged := by
            simpa only [NamedOnce, Json.merged, Json.member?_eq_none_iff.mpr same] using once
          have spelled : (Baseline.respelled (old none) (.obj members)).merged = _ :=
            Baseline.merged_respelled single
          rw [respelled_record old listed, spelled, Json.merged, respelled_record old same]
  | null | bool value | int value | float value | str value | arr items | unreadable => rfl

theorem isReadable_respelledRecords (depth : Nat) (old : String → String → Bool) (value : Json) :
    (respelledRecords old value).isReadable depth = value.isReadable depth := by
  cases value with
  | obj records =>
      simp only [respelledRecords, Json.isReadable]
      rw [Json.membersReadable_map]
      intro record
      exact Baseline.isReadable_respelled ..
  | null | bool value | int value | float value | str value | arr items | unreadable => rfl

theorem isReadable_respelled (depth : Nat) (old : Option String → String → Bool) (tree : Json) :
    (respelled old tree).isReadable depth = tree.isReadable depth := by
  cases tree with
  | obj members =>
      cases listed : members.any (·.1 == "baselines") with
      | true =>
          rw [respelled_records old listed, Json.isReadable, Json.isReadable,
            Json.membersReadable_map]
          intro member
          change (respelledMember old member.1 member.2).isReadable _ = _
          unfold respelledMember
          split
          · exact isReadable_respelledRecords ..
          · rfl
      | false =>
          rw [respelled_record old listed]
          exact Baseline.isReadable_respelled ..
  | null | bool value | int value | float value | str value | arr items | unreadable => rfl

theorem parseMerged?_respelled {old : Option String → String → Bool} {text other : String}
    {tree : Json} (read : Json.parse? text = some tree)
    (readOther : Json.parse? other = some (respelled old tree))
    (once : NamedOnce tree.merged) :
    Json.parseMerged? other = (Json.parseMerged? text).map (respelled old) := by
  simp only [Json.parseMerged?, read, readOther, Option.bind_eq_bind, Option.bind_some,
    isReadable_respelled, merged_respelled once]
  split <;> rfl

theorem baselinesOfJson?_respelledRecords (old : String → String → Bool) (value : Json) :
    baselinesOfJson? (respelledRecords old value) = baselinesOfJson? value := by
  cases value with
  | obj records =>
      simp only [respelledRecords, baselinesOfJson?, List.mapM_map]
      congr 1
      apply Json.mapM_congr_mem
      intro record _
      simp only [Function.comp_apply, Baseline.ofJson?_respelled]
  | null | bool value | int value | float value | str value | arr items | unreadable => rfl

theorem ofJson?_respelled (old : Option String → String → Bool) (members : List (String × Json)) :
    ofJson? (.obj (members.map fun member => (member.1, respelledMember old member.1 member.2))) =
      ofJson? (.obj members) := by
  have decoded (value : Option Json) :
      Json.required baselinesOfJson? (value.map (respelledMember old "baselines")) =
        Json.required baselinesOfJson? value := by
    cases value with
    | none => rfl
    | some value =>
        simp only [Option.map_some, Json.required, Option.bind_some, respelledMember,
          beq_self_eq_true, if_true]
        exact baselinesOfJson?_respelledRecords ..
  simp only [ofJson?, Json.fields?, List.mapM_cons, List.mapM_nil]
  rw [Json.findField_revalue]
  cases Json.findField members (Json.field "baselines") with
  | none => rfl
  | some value =>
      have same := decoded value
      simp only [Option.map_some, Option.bind_eq_bind, Option.bind_some, Option.pure_def]
      rw [same]

theorem ofMembers_respelled {old : Option String → String → Bool}
    {members others : List (String × Json)} {document : BaselineDocument}
    (spelled : respelled old (.obj members) = .obj others) :
    ofMembers others = .ok document ↔ ofMembers members = .ok document := by
  cases listed : members.any (·.1 == "baselines") with
  | true =>
      rw [respelled_records old listed, Json.obj.injEq] at spelled
      subst spelled
      simp only [ofMembers]
      rw [Json.member?_revalue, ofJson?_respelled]
      cases found : Json.member? members "baselines" with
      | none =>
          rw [Json.member?_eq_none_iff, listed] at found
          contradiction
      | some value =>
          simp only [Option.map_some]
          cases ofJson? (.obj members) with
          | none => simp
          | some whole => exact Iff.rfl
  | false =>
      have decoded := Baseline.ofJson?_respelled (old none) (.obj members)
      rw [respelled_record old listed] at spelled
      have missing := Json.member?_eq_none_iff.mpr listed
      have missingThere : Json.member? others "baselines" = none := by
        rw [Baseline.respelled, Json.obj.injEq] at spelled
        subst spelled
        rw [Json.member?_eq_none_iff, List.any_map, List.any_eq_false]
        intro member found
        have different := List.any_eq_false.mp listed member found
        rw [beq_iff_eq] at different
        simpa using Baseline.spelledKey_ne_baselines (old none) different
      rw [spelled] at decoded
      simp only [ofMembers, missing, missingThere, decoded]
      cases Baseline.ofJson? (.obj members) with
      | none => simp
      | some whole => exact Iff.rfl

theorem exists_members_of_parse {text : String} {document : BaselineDocument}
    (parsed : parse text = .ok document) :
    ∃ members, Json.parseMerged? text = some (.obj members) ∧ ofMembers members = .ok document := by
  unfold parse at parsed
  split at parsed
  case h_1 => exact nomatch parsed
  case h_2 members whole => exact ⟨members, whole, parsed⟩
  case h_3 => exact nomatch parsed

/-- What a document is read from: its map of records, or else a single record. -/
theorem ofMembers_eq_ok {members : List (String × Json)} {document : BaselineDocument}
    (read : ofMembers members = .ok document) :
    (∃ value baselines, Json.member? members "baselines" = some value ∧
        baselinesOfJson? value = some baselines ∧ document = ⟨baselines⟩) ∨
      ∃ baseline, Json.member? members "baselines" = none ∧
        Baseline.ofJson? (.obj members) = some baseline ∧ document = empty.insert baseline := by
  unfold ofMembers at read
  split at read
  case h_1 value found =>
      split at read
      case h_1 whole decoded =>
          obtain rfl := Except.ok.inj read
          obtain ⟨values, fields, decoded⟩ := Option.bind_eq_some_iff.mp decoded
          simp only [Json.fields?, List.mapM_cons, List.mapM_nil] at fields
          obtain ⟨listed, taken, fields⟩ := Option.bind_eq_some_iff.mp fields
          obtain rfl := Option.some.inj fields
          obtain ⟨baselines, records, decoded⟩ := Option.bind_eq_some_iff.mp decoded
          obtain rfl := Option.some.inj decoded
          rw [← Json.member?_of_findField taken, found] at records
          exact .inl ⟨value, baselines, found, records, rfl⟩
      case h_2 => contradiction
  case h_2 missing =>
      split at read
      case h_1 baseline decoded =>
          obtain rfl := Except.ok.inj read
          exact .inr ⟨baseline, missing, decoded, rfl⟩
      case h_2 => contradiction

theorem exists_record_of_baselinesOfJson? {value : Json} {baselines : SortedMap Baseline}
    (read : baselinesOfJson? value = some baselines) :
    ∃ records, value = .obj records ∧
      (∀ record ∈ records, ∃ baseline, Baseline.ofJson? record.2 = some baseline) ∧
      ∀ entry ∈ baselines.entries, ∃ record ∈ records,
        Baseline.ofJson? record.2 = some entry.2 := by
  cases value with
  | obj records =>
      obtain ⟨entries, whole, rfl⟩ := Option.map_eq_some_iff.mp read
      refine ⟨records, rfl, ?_, ?_⟩
      · intro record member
        obtain ⟨entry, _, decoded⟩ := Json.exists_of_mapM whole member
        obtain ⟨baseline, one, _⟩ := Option.map_eq_some_iff.mp decoded
        exact ⟨baseline, one⟩
      · intro entry member
        obtain ⟨record, present, decoded⟩ :=
          Json.exists_of_mem_mapM whole (SortedMap.mem_of_mem_ofList member)
        obtain ⟨baseline, one, rfl⟩ := Option.map_eq_some_iff.mp decoded
        exact ⟨record, present, one⟩
  | null | bool value | int value | float value | str value | arr items | unreadable =>
      contradiction

/-- A document that is read has no field of a record under two names. -/
theorem namedOnce_of_parse {text : String} {tree : Json} {document : BaselineDocument}
    (read : Json.parse? text = some tree) (parsed : parse text = .ok document) :
    NamedOnce tree.merged := by
  obtain ⟨members, whole, parsed⟩ := exists_members_of_parse parsed
  have merged : tree.merged = .obj members := by
    simp only [Json.parseMerged?, read, Option.bind_eq_bind, Option.bind_some] at whole
    split at whole
    · exact Option.some.inj whole
    · contradiction
  rw [merged]
  rcases ofMembers_eq_ok parsed with ⟨value, _, found, decoded, _⟩ | ⟨baseline, missing, decoded, _⟩
  · obtain ⟨records, rfl, each, _⟩ := exists_record_of_baselinesOfJson? decoded
    simp only [NamedOnce, found]
    intro record member
    obtain ⟨baseline, one⟩ := each record member
    exact Baseline.namedOnce_of_ofJson? one
  · simp only [NamedOnce, missing]
    exact Baseline.namedOnce_of_ofJson? decoded

theorem parse_respelled_iff {old : Option String → String → Bool} {text other : String}
    {tree : Json} {document : BaselineDocument} (read : Json.parse? text = some tree)
    (readOther : Json.parse? other = some (respelled old tree)) (once : NamedOnce tree.merged) :
    parse other = .ok document ↔ parse text = .ok document := by
  simp only [parse, parseMerged?_respelled read readOther once]
  cases Json.parseMerged? text with
  | none => simp
  | some whole =>
      cases whole with
      | obj members =>
          obtain ⟨others, spelled⟩ : ∃ others, respelled old (.obj members) = .obj others := by
            cases listed : members.any (·.1 == "baselines") with
            | true => exact ⟨_, respelled_records old listed⟩
            | false => exact ⟨_, respelled_record old listed⟩
          simp only [Option.map_some, spelled]
          exact ofMembers_respelled spelled
      | null | bool value | int value | float value | str value | arr items | unreadable =>
          exact Iff.rfl

theorem isFinite_of_parse {text : String} {document : BaselineDocument}
    (parsed : parse text = .ok document) : ∀ x ∈ document.doubles, x.isFinite = true := by
  obtain ⟨members, whole, parsed⟩ := exists_members_of_parse parsed
  have inRange := Json.inRange_of_parseMerged? whole
  intro x member
  obtain ⟨entry, listed, double⟩ := List.mem_flatMap.mp member
  rcases ofMembers_eq_ok parsed with ⟨value, baselines, found, decoded, rfl⟩ |
    ⟨baseline, _, decoded, rfl⟩
  · obtain ⟨records, rfl, _, source⟩ := exists_record_of_baselinesOfJson? decoded
    obtain ⟨record, present, one⟩ := source entry listed
    have records := Json.membersInRange_iff.mp inRange
    obtain ⟨member, held, same⟩ := Json.mem_of_member? found
    have range : Json.InRange (.obj _) := same ▸ records member held
    have recordRange := Json.membersInRange_iff.mp range record present
    exact Baseline.isFinite_of_ofJson? one recordRange x double
  · have only : entry = (baseline.key, baseline) := List.mem_singleton.mp listed
    subst only
    exact Baseline.isFinite_of_ofJson? decoded inRange x double

/-! ## Texts of a document -/

theorem readsBack_of_doubles {document : BaselineDocument}
    (readBack : ∀ x ∈ document.doubles, Json.DoubleReadsBack x) : document.ReadsBack := by
  intro entry listed
  apply Baseline.readsBack_of_doubles
  intro x double
  exact readBack x (List.mem_flatMap.mpr ⟨entry, listed, double⟩)

theorem parse?_render {document : BaselineDocument} (readsBack : document.ReadsBack) :
    Json.parse? document.render = some document.toJson :=
  Json.parse?_render_alone (readsBack_toJson readsBack)

theorem parseMerged?_render_alone {document : BaselineDocument} (readsBack : document.ReadsBack) :
    Json.parseMerged? document.render = some document.toJson := by
  have merged : Json.parseMerged? (document.render ++ "") = some document.toJson :=
    parseMerged?_render readsBack rfl
  rwa [String.append_empty] at merged

theorem readsBack_respelled (old : Option String → String → Bool) {document : BaselineDocument}
    (readsBack : document.ReadsBack) : (respelled old document.toJson).ReadsBack := by
  have records : Json.ReadsBack
      (respelledRecords (fun key => old (some key)) (baselinesJson document.baselines)) := by
    apply Json.membersReadBack_map _ (readsBack_members readsBack)
    intro record readBack
    cases value : record.2 with
    | obj members =>
        rw [value] at readBack
        exact Json.membersReadBack_map (fun _ same => same) readBack
    | null | bool value | int value | float value | str value | arr items | unreadable =>
        rw [value] at readBack
        exact readBack
  exact ⟨records, trivial⟩

/-- The text of a document with fields under their old names is read as the document. -/
theorem parse_render_respelled (old : Option String → String → Bool) {document : BaselineDocument}
    (readsBack : document.ReadsBack) :
    parse (respelled old document.toJson).render = .ok document := by
  have text := parse?_render readsBack
  have parsed := parse_of_parseMerged? (parseMerged?_render_alone readsBack)
  have other := Json.parse?_render_alone (readsBack_respelled old readsBack)
  exact (parse_respelled_iff text other (namedOnce_of_parse text parsed)).mpr parsed

/-- A document is read back from its text, under old names as under new ones, and what was read once
stays the same when it is written and read again.  That a finite double is read back from its text
is assumed of each double of the document. -/
theorem parse_layouts :
    (∀ document : BaselineDocument, (∀ x ∈ document.doubles, x.isFinite = true) →
      (∀ x ∈ document.doubles, x.isFinite = true → Json.DoubleReadsBack x) →
        parse document.render = .ok document ∧
        (∃ members baselines, Json.parseMerged? document.render = some (.obj members) ∧
          Json.member? members "baselines" = some baselines) ∧
        ∀ old, parse (respelled old document.toJson).render = .ok document) ∧
    (∀ text document, parse text = .ok document →
      (∀ x ∈ document.doubles, x.isFinite = true → Json.DoubleReadsBack x) →
        parse document.render = .ok document) ∧
    (∀ text other tree old, Json.parse? text = some tree →
      Json.parse? other = some (respelled old tree) →
        (∀ document, parse text = .ok document → parse other = .ok document) ∧
        (NamedOnce tree.merged →
          ∀ document, parse other = .ok document → parse text = .ok document)) ∧
    ∀ text members baseline, Json.parseMerged? text = some (.obj members) →
      Json.member? members "baselines" = none →
      Baseline.ofJson? (.obj members) = some baseline →
        ∃ document, parse text = .ok document ∧
          document.baselines.entries = [(baseline.key, baseline)] := by
  refine ⟨?_, ?_, ?_, ?_⟩
  · intro document finite assumed
    have readsBack := readsBack_of_doubles fun x double => assumed x double (finite x double)
    have merged := parseMerged?_render_alone readsBack
    refine ⟨parse_of_parseMerged? merged, ⟨_, _, merged, document.member?_toJson⟩, ?_⟩
    intro old
    exact parse_render_respelled old readsBack
  · intro text document parsed assumed
    have readsBack := readsBack_of_doubles fun x double =>
      assumed x double (isFinite_of_parse parsed x double)
    exact parse_of_parseMerged? (parseMerged?_render_alone readsBack)
  · intro text other tree old read readOther
    constructor
    · intro document parsed
      exact (parse_respelled_iff read readOther (namedOnce_of_parse read parsed)).mpr parsed
    · intro once document parsed
      exact (parse_respelled_iff read readOther once).mp parsed
  · intro text members baseline whole missing decoded
    refine ⟨empty.insert baseline, ?_, rfl⟩
    simp only [parse, whole, ofMembers, missing, decoded]

/-- A single record under old names, its document, and that under old names again. -/
theorem parse_layouts_singleRecord :
    ∃ document : BaselineDocument,
      document.baselines.entries = [("H", { hardwareFingerprint := "H", totalIssues := 2 })] ∧
      parse (Json.render (.obj [("hardware_hash", .str "H"), ("issues_found", .int 2)])) =
        .ok document ∧
      parse document.render = .ok document ∧
      parse (respelled (fun _ _ => true) document.toJson).render = .ok document := by
  obtain ⟨written, again, spelled, single⟩ := parse_layouts
  have whole : Json.parseMerged?
      (Json.render (.obj [("hardware_hash", .str "H"), ("issues_found", .int 2)])) =
        some (.obj [("hardware_hash", .str "H"), ("issues_found", .int 2)]) := by
    have readsBack :
        Json.ReadsBack (.obj [("hardware_hash", .str "H"), ("issues_found", .int 2)]) :=
      ⟨trivial, ⟨by decide, by decide⟩, trivial⟩
    have tree := Json.parse?_render_alone readsBack
    simp only [Json.parseMerged?, tree, Option.bind_eq_bind, Option.bind_some]
    rfl
  obtain ⟨document, parsed, entries⟩ := single _ _
    { hardwareFingerprint := "H", totalIssues := 2 } whole rfl rfl
  have zeros : ∀ x ∈ document.doubles, x = 0.0 := by
    simp [doubles, entries, Baseline.doubles]
  have assumed : ∀ x ∈ document.doubles, x.isFinite = true → Json.DoubleReadsBack x := by
    intro x double _
    rw [zeros x double]
    exact Json.doubleReadsBack_zero
  have finite := isFinite_of_parse parsed
  have readsBack := readsBack_of_doubles fun x double => assumed x double (finite x double)
  have other := Json.parse?_render_alone (readsBack_respelled (fun _ _ => true) readsBack)
  refine ⟨document, entries, parsed, again _ document parsed assumed, ?_⟩
  exact (spelled _ _ _ _ (parse?_render readsBack) other).1 document
    (written document finite assumed).1

end BaselineDocument

end EnergyAudit
