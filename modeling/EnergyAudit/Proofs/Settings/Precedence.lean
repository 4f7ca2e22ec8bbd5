import EnergyAudit.Proofs.Settings.Layers
import EnergyAudit.Proofs.Settings.Validation
import EnergyAudit.Settings.Load

/-! # Which value a setting has

Settings that load are valid, and each of them has the value of the environment if that sets it,
else the one of the file that is given, else the one of the file in the working directory, and else
the one that is built in.  It is so for every setting whose group the layers down to that one give
as tables only, with no index in a key.  A layer that gives a group as a list puts it in place of
the whole group, so that what lower layers set in the group is lost.

All of this holds for every library that reads the configuration, whatever formats it knows and in
whatever order it brings up the entries of a layer.  Where a layer sets a setting several times,
that order says which time counts. -/

namespace EnergyAudit

open ConfigValue

/-- One of the settings: where it stands in a table of groups, what a value there turns into, and
where it is kept. -/
structure Setting where
  group : String
  key : String
  Value : Type
  convert : ConfigValue → Option Value
  get : Settings → Value

namespace Setting

def maxFiles : Setting := ⟨"audit", "max_files", UInt64, toWord64?, (·.audit.maxFiles)⟩

def ofAudit : List Setting :=
  [⟨"audit", "severity_threshold", Severity, toSeverity?, (·.audit.severityThreshold)⟩,
   maxFiles,
   ⟨"audit", "fail_on_critical", Bool, toBool?, (·.audit.failOnCritical)⟩,
   ⟨"audit", "extensions", List String, toTexts?, (·.audit.extensions)⟩]

def ofBaseline : List Setting :=
  [⟨"baseline", "dir", String, toText?, (·.baseline.dir)⟩,
   ⟨"baseline", "file_name", String, toText?, (·.baseline.fileName)⟩,
   ⟨"baseline", "regression_threshold_pct", Float, toDouble?, (·.baseline.regressionThresholdPct)⟩,
   ⟨"baseline", "gate_on_throughput", Bool, toBool?, (·.baseline.gateOnThroughput)⟩]

def ofCalibration : List Setting :=
  [⟨"calibration", "benchmark_duration_s", Float, toDouble?, (·.calibration.benchmarkDurationS)⟩,
   ⟨"calibration", "power_sampling_duration_s", Float, toDouble?,
     (·.calibration.powerSamplingDurationS)⟩,
   ⟨"calibration", "sampling_interval_ms", UInt64, toWord64?, (·.calibration.samplingIntervalMs)⟩,
   ⟨"calibration", "probe_timeout_ms", UInt64, toWord64?, (·.calibration.probeTimeoutMs)⟩,
   ⟨"calibration", "detect_timeout_ms", UInt64, toWord64?, (·.calibration.detectTimeoutMs)⟩,
   ⟨"calibration", "matrix_size", UInt64, toWord64?, (·.calibration.matrixSize)⟩,
   ⟨"calibration", "warmup_iterations", UInt32, toWord32?, (·.calibration.warmupIterations)⟩]

def all : List Setting := ofAudit ++ ofBaseline ++ ofCalibration

/-- The setting has what the value turns into, or without a value what is built in. -/
def Has (setting : Setting) (value : Option ConfigValue) (settings : Settings) : Prop :=
  orDefault (setting.get {}) setting.convert value = some (setting.get settings)

/-- The value that a layer sets the setting to. -/
def setBy? (setting : Setting) (layer : List (String × ConfigValue)) : Option ConfigValue :=
  lastSet? (layerValues setting.group setting.key layer)

/-- The layers, of which the highest comes first, give the group of the setting as tables, down to
the first layer that sets the setting. -/
def GivenInTables (setting : Setting) : List (List (String × ConfigValue)) → Prop
  | [] => True
  | layer :: layers =>
      GivesTables setting.group layer ∧ (setting.setBy? layer = none → setting.GivenInTables layers)

instance decidableGivenInTables (setting : Setting) :
    (layers : List (List (String × ConfigValue))) → Decidable (setting.GivenInTables layers)
  | [] => isTrue trivial
  | layer :: layers =>
      have := decidableGivenInTables setting layers
      inferInstanceAs
        (Decidable (GivesTables setting.group layer ∧ (setting.setBy? layer = none → _)))

end Setting

variable {settings : Settings} {table : ConfigValue} {members : List (String × ConfigValue)}

/-- There are no other settings. -/
theorem Setting.eq_of_get {other : Settings}
    (same : ∀ setting ∈ Setting.all, setting.get settings = setting.get other) :
    settings = other := by
  obtain ⟨⟨_, _, _, _⟩, ⟨_, _, _, _⟩, ⟨_, _, _, _, _, _, _⟩⟩ := settings
  obtain ⟨⟨_, _, _, _⟩, ⟨_, _, _, _⟩, ⟨_, _, _, _, _, _, _⟩⟩ := other
  simpa [Setting.all, Setting.ofAudit, Setting.maxFiles, Setting.ofBaseline,
    Setting.ofCalibration, and_assoc] using same

/-! ## Conversions -/

theorem readsKeys_of_refuses {α : Type} {convert : ConfigValue → Option α}
    (refuses : ∀ members, convert (.table members) = none) : ReadsKeys convert where
  empty := refuses []
  keys := fun converted => by rw [refuses] at converted; contradiction

/-- A severity as a table is a table with one key. -/
theorem readsKeys_toSeverity? : ReadsKeys toSeverity? where
  empty := rfl
  keys {members fewer result} converted some distinct listed := by
    match members, converted with
    | [(name, _)], converted =>
      match fewer, some, distinct with
      | [(other, _)], _, _ =>
          obtain rfl : other = name := by simpa using listed
          exact converted
      | (first, _) :: (second, _) :: _, _, distinct =>
          have same : first = name ∧ second = name := by
            constructor <;> exact List.mem_singleton.mp (listed _ (by simp))
          simp [same] at distinct

theorem readsKeys_convert : ∀ setting ∈ Setting.all, ReadsKeys setting.convert := by
  simp only [Setting.all, Setting.ofAudit, Setting.ofBaseline, Setting.ofCalibration,
    List.forall_mem_append, List.forall_mem_cons, List.not_mem_nil, false_implies, implies_true,
    and_true]
  refine ⟨⟨⟨readsKeys_toSeverity?, ?_, ?_, ?_⟩, ?_, ?_, ?_, ?_⟩, ?_, ?_, ?_, ?_, ?_, ?_, ?_⟩
  all_goals exact readsKeys_of_refuses fun _ => rfl

/-! ## Groups -/

theorem has_ofAudit (converted : toAuditSettings? (.table members) = some settings.audit) :
    ∀ setting ∈ Setting.ofAudit, setting.Has (get? members setting.key) settings := by
  simp only [toAuditSettings?, group?, AuditSettings.fieldNames, List.map_cons, List.map_nil,
    Json.field, Option.bind_eq_bind, Option.bind_some, Option.bind_eq_some_iff, Option.pure_def,
    Option.some.injEq] at converted
  obtain ⟨_, severity, _, files, _, fails, _, extensions, same⟩ := converted
  simp only [Setting.ofAudit, Setting.maxFiles, List.forall_mem_cons, List.not_mem_nil,
    false_implies, implies_true, and_true, Setting.Has, ← same]
  exact ⟨severity, files, fails, extensions⟩

theorem has_ofBaseline
    (converted : toBaselineSettings? (.table members) = some settings.baseline) :
    ∀ setting ∈ Setting.ofBaseline, setting.Has (get? members setting.key) settings := by
  simp only [toBaselineSettings?, group?, BaselineSettings.fieldNames, List.map_cons, List.map_nil,
    Json.field, Option.bind_eq_bind, Option.bind_some, Option.bind_eq_some_iff, Option.pure_def,
    Option.some.injEq] at converted
  obtain ⟨_, dir, _, file, _, threshold, _, gate, same⟩ := converted
  simp only [Setting.ofBaseline, List.forall_mem_cons, List.not_mem_nil, false_implies,
    implies_true, and_true, Setting.Has, ← same]
  exact ⟨dir, file, threshold, gate⟩

theorem has_ofCalibration
    (converted : toCalibrationSettings? (.table members) = some settings.calibration) :
    ∀ setting ∈ Setting.ofCalibration, setting.Has (get? members setting.key) settings := by
  simp only [toCalibrationSettings?, group?, CalibrationSettings.fieldNames, List.map_cons,
    List.map_nil, Json.field, Option.bind_eq_bind, Option.bind_some, Option.bind_eq_some_iff,
    Option.pure_def, Option.some.injEq] at converted
  obtain ⟨_, benchmark, _, sampling, _, interval, _, probe, _, detect, _, size, _, warmup, same⟩ :=
    converted
  simp only [Setting.ofCalibration, List.forall_mem_cons, List.not_mem_nil, false_implies,
    implies_true, and_true, Setting.Has, ← same]
  exact ⟨benchmark, sampling, interval, probe, detect, size, warmup⟩

/-- A group that is missing is as good as an empty table. -/
theorem exists_table_of_orDefault {α : Type} {default result : α}
    {convert : ConfigValue → Option α} {group : String} (hasTable : HasTable group table)
    (converted : orDefault default convert (get? table.members group) = some result)
    (empty : convert (.table []) = some default) :
    ∃ members, convert (.table members) = some result ∧
      ∀ key, setting? group key table = get? members key := by
  obtain ⟨members, form⟩ := hasTable_getD hasTable
  refine ⟨members, ?_, fun key => by rw [setting?_eq_getD, form]; rfl⟩
  cases found : get? table.members group with
  | none =>
      rw [found] at form converted
      obtain rfl : [] = members := ConfigValue.table.inj form
      exact empty.trans converted
  | some value =>
      rw [found] at form converted
      obtain rfl : value = .table members := form
      exact converted

/-- The settings of a group have what is in the table of the group, if it converts so. -/
theorem has_of_group {α : Type} {default result : α} {convert : ConfigValue → Option α}
    {group : String} {ofGroup : List Setting}
    (inGroup : ∀ setting ∈ ofGroup, setting.group = group)
    (has : ∀ {members}, convert (.table members) = some result →
      ∀ setting ∈ ofGroup, setting.Has (get? members setting.key) settings)
    (converted : orDefault default convert (get? table.members group) = some result)
    (empty : convert (.table []) = some default) :
    ∀ setting ∈ ofGroup, HasTable setting.group table →
      setting.Has (setting? setting.group setting.key table) settings := by
  intro setting listed hasTable
  rw [inGroup setting listed] at hasTable ⊢
  obtain ⟨members, whole, same⟩ := exists_table_of_orDefault hasTable converted empty
  rw [same]
  exact has whole setting listed

/-- What settings that a table of groups turns into have. -/
theorem has_of_toSettings? (converted : toSettings? (.table members) = some settings) :
    ∀ setting ∈ Setting.all, HasTable setting.group (.table members) →
      setting.Has (setting? setting.group setting.key (.table members)) settings := by
  simp only [toSettings?, group?, Settings.fieldNames, List.map_cons, List.map_nil,
    Json.field, Option.bind_eq_bind, Option.bind_some, Option.bind_eq_some_iff, Option.pure_def,
    Option.some.injEq] at converted
  obtain ⟨audit, first, baseline, second, calibration, third, rfl⟩ := converted
  simp only [Setting.all, List.forall_mem_append]
  refine ⟨⟨?audit, ?baseline⟩, ?calibration⟩
  case audit =>
    exact has_of_group (by simp [Setting.ofAudit, Setting.maxFiles]) has_ofAudit first rfl
  case baseline =>
    exact has_of_group (by simp [Setting.ofBaseline]) has_ofBaseline second rfl
  case calibration =>
    exact has_of_group (by simp [Setting.ofCalibration]) has_ofCalibration third rfl

/-! ## Layers -/

/-- Layers that are laid over one another leave the setting with the value of the highest one that
sets it. -/
theorem has_findSome?_setBy? {setting : Setting} (reads : ReadsKeys setting.convert)
    {layers : List (List (String × ConfigValue))} {merged : ConfigValue}
    (tables : setting.GivenInTables layers)
    (added : (ConfigValue.table []).addLayer? layers.reverse.flatten = some merged) :
    HasTable setting.group merged ∧
      (setting.Has (setting? setting.group setting.key merged) settings →
        setting.Has (layers.findSome? setting.setBy?) settings) := by
  induction layers generalizing merged with
  | nil =>
      obtain rfl := Option.some.inj added
      exact ⟨nofun, id⟩
  | cons layer layers ih =>
      rw [List.reverse_cons, List.flatten_append, List.flatten_singleton, addLayer?_append]
        at added
      obtain ⟨middle, below, above⟩ := Option.bind_eq_some_iff.mp added
      have after := setting?_addLayer? setting.key tables.1 above
      cases found : setting.setBy? layer with
      | some value =>
          have some : layerValues setting.group setting.key layer ≠ [] := by
            intro none
            rw [Setting.setBy?, none] at found
            contradiction
          refine ⟨hasTable_addLayer? setting.key tables.1 (.inr some) above, fun has => ?_⟩
          rw [Setting.Has, after] at has
          have last := orDefault_lastSet? reads _ _ has
          rw [List.findSome?_cons, found]
          rwa [← Setting.setBy?, found] at last
      | none =>
          obtain ⟨hasTable, lower⟩ := ih (tables.2 found) below
          refine ⟨hasTable_addLayer? setting.key tables.1 (.inl hasTable) above, fun has => ?_⟩
          rw [Setting.Has, after] at has
          have last := orDefault_lastSet? reads _ _ has
          rw [List.findSome?_cons, found]
          rw [← Setting.setBy?, found, Option.none_or] at last
          exact lower last

/-! ## Loading -/

namespace Settings

variable {library : ConfigLibrary} {w : Workspace} {environment : Environment}
  {path : Option String}

/-- The layer of the file that is given; nothing if none is. -/
def givenLayer? (library : ConfigLibrary) (w : Workspace) (path : Option String) :
    Option (List (String × ConfigValue)) :=
  match path with
  | none => some []
  | some path => ConfigFile.requiredLayer? library w path

theorem addLayer_eq_ok {layer : Option (List (String × ConfigValue))} {merged : ConfigValue} :
    addLayer table layer = .ok merged ↔
      ∃ given, layer = some given ∧ table.addLayer? given = some merged := by
  cases layer with
  | none => simp [addLayer]
  | some given =>
      rw [addLayer]
      cases added : table.addLayer? given <;> simp [added]

/-- Layers laid over one another are one long layer. -/
theorem exists_of_foldlM_addLayer {layers : List (Option (List (String × ConfigValue)))}
    {merged : ConfigValue} (folded : layers.foldlM addLayer table = .ok merged) :
    ∃ given : List (List (String × ConfigValue)), given.map some = layers ∧
      table.addLayer? given.flatten = some merged := by
  induction layers generalizing table with
  | nil =>
      obtain rfl := Except.ok.inj folded
      exact ⟨[], rfl, rfl⟩
  | cons layer layers ih =>
      rw [List.foldlM_cons] at folded
      cases first : addLayer table layer with
      | error e => rw [first] at folded; contradiction
      | ok middle =>
          rw [first] at folded
          obtain ⟨given, rfl, rest⟩ := ih folded
          obtain ⟨head, rfl, added⟩ := addLayer_eq_ok.mp first
          refine ⟨head :: given, rfl, ?_⟩
          rw [List.flatten_cons, addLayer?, List.foldlM_append, ← addLayer?, added]
          exact rest

/-- Settings that load are those that the layers turn into, and valid. -/
theorem exists_table_of_load (loaded : load library w environment path = .ok settings) :
    ∃ table, (layers library w environment path).foldlM addLayer (.table []) = .ok table ∧
      table.toSettings? = some settings ∧ settings.validate = .ok settings := by
  unfold load at loaded
  cases folded : (layers library w environment path).foldlM addLayer (.table []) with
  | error e => simp only [folded] at loaded; contradiction
  | ok table =>
      cases converted : table.toSettings? with
      | none => simp only [folded, converted] at loaded; contradiction
      | some found =>
          cases checked : found.validate with
          | error e =>
              simp only [folded, converted, checked, Except.mapError] at loaded
              contradiction
          | ok chosen =>
              simp only [folded, converted, checked, Except.mapError, Except.ok.injEq] at loaded
              obtain rfl := loaded
              obtain ⟨-, rfl⟩ := validate_eq_ok.mp checked
              exact ⟨table, rfl, converted, checked⟩

/-- The layers of a configuration whose files can all be read. -/
theorem exists_of_layers {given : List (List (String × ConfigValue))}
    (all : given.map some = layers library w environment path) :
    ∃ file chosen, ConfigFile.optionalLayer? library w defaultFile = some file ∧
      givenLayer? library w path = some chosen ∧
        given.flatten = file ++ chosen ++ library.arrange environment.layer := by
  cases path with
  | none =>
      simp only [layers, Option.toList_none, List.map_nil, List.cons_append, List.nil_append,
        List.map_eq_cons_iff, List.map_eq_nil_iff] at all
      obtain ⟨file, -, rfl, first, last, -, rfl, same, rfl⟩ := all
      obtain rfl := Option.some.inj same
      exact ⟨file, [], first.symm, rfl, by simp⟩
  | some path =>
      simp only [layers, Option.toList_some, List.map_cons, List.map_nil, List.cons_append,
        List.nil_append, List.map_eq_cons_iff, List.map_eq_nil_iff] at all
      obtain ⟨file, -, rfl, first, chosen, -, rfl, second, last, -, rfl, same, rfl⟩ := all
      obtain rfl := Option.some.inj same
      exact ⟨file, chosen, first.symm, second.symm, by simp⟩

/-- Settings that load are what the environment, the given file and the file in the working
directory make of an empty table, from the last of them on. -/
theorem exists_layers_of_load (loaded : load library w environment path = .ok settings) :
    ∃ file given members, ConfigFile.optionalLayer? library w defaultFile = some file ∧
      givenLayer? library w path = some given ∧
        (ConfigValue.table []).addLayer?
            [library.arrange environment.layer, given, file].reverse.flatten =
          some (.table members) ∧
          toSettings? (.table members) = some settings ∧ settings.validate = .ok settings := by
  obtain ⟨table, folded, converted, valid⟩ := exists_table_of_load loaded
  obtain ⟨all, same, added⟩ := exists_of_foldlM_addLayer folded
  obtain ⟨file, given, first, second, flat⟩ := exists_of_layers same
  obtain ⟨members, rfl⟩ := exists_table_of_addLayer? added
  refine ⟨file, given, members, first, second, ?_, converted, valid⟩
  rw [← added, flat]
  simp

/-- Settings that load are valid, and each has the value of the highest layer that sets it: the
environment, the file that is given, or the file in the working directory; else the one that is
built in.  The layers have to give the group of the setting as tables, down to that layer. -/
theorem load_by_precedence (loaded : load library w environment path = .ok settings) :
    settings.validate = .ok settings ∧
      ∃ file given, ConfigFile.optionalLayer? library w defaultFile = some file ∧
        givenLayer? library w path = some given ∧
          ∀ setting ∈ Setting.all,
            setting.GivenInTables [library.arrange environment.layer, given, file] →
              setting.Has ([library.arrange environment.layer, given, file].findSome?
                setting.setBy?) settings := by
  obtain ⟨file, given, members, first, second, added, converted, valid⟩ :=
    exists_layers_of_load loaded
  refine ⟨valid, file, given, first, second, fun setting listed tables => ?_⟩
  obtain ⟨hasTable, has⟩ := has_findSome?_setBy? (readsKeys_convert setting listed) tables added
  exact has (has_of_toSettings? converted setting listed hasTable)

/-- A workspace with a file of settings, and another that sets one of them again. -/
def layered : Workspace :=
  ⟨⟨[(["ecocompute.toml"],
        .file "[audit]\nseverity_threshold = \"info\"\nmax_files = 3\n".toUTF8),
      (["c.toml"], .file "[audit]\nmax_files = 7\n".toUTF8)]⟩, []⟩

/-- An environment that sets a setting of the same group. -/
def lenient : Environment := [("ECOCOMPUTE_AUDIT__FAIL_ON_CRITICAL", "false")]

deriving instance DecidableEq for AuditSettings

theorem exists_of_audit {loaded : Except SettingsError Settings} {audit : AuditSettings}
    (found : loaded.toOption.map (·.audit) = some audit) :
    ∃ settings, loaded = .ok settings ∧ settings.audit = audit := by
  cases loaded with
  | error e => contradiction
  | ok settings => exact ⟨settings, rfl, Option.some.inj found⟩

/-- Of four settings of one group, the environment, the given file and the file in the working
directory have one each, and one is built in. -/
theorem load_layered_by_precedence :
    ∃ settings file given, load .inOrder layered lenient (some "c.toml") = .ok settings ∧
      settings.validate = .ok settings ∧
        settings.audit = { severityThreshold := .info, maxFiles := 7, failOnCritical := false } ∧
          ConfigFile.optionalLayer? .inOrder layered defaultFile = some file ∧
            givenLayer? .inOrder layered (some "c.toml") = some given ∧
              ∀ setting ∈ Setting.all, setting.GivenInTables [lenient.layer, given, file] ∧
                setting.Has ([lenient.layer, given, file].findSome? setting.setBy?) settings := by
  have found : (load .inOrder layered lenient (some "c.toml")).toOption.map (·.audit) =
      some { severityThreshold := .info, maxFiles := 7, failOnCritical := false } := by
    decide +kernel
  obtain ⟨settings, loaded, audit⟩ := exists_of_audit found
  obtain ⟨valid, file, given, first, second, byPrecedence⟩ := load_by_precedence loaded
  have tables : ∀ file ∈ ConfigFile.optionalLayer? .inOrder layered defaultFile,
      ∀ given ∈ givenLayer? .inOrder layered (some "c.toml"), ∀ setting ∈ Setting.all,
        setting.GivenInTables [lenient.layer, given, file] := by decide +kernel
  exact ⟨settings, file, given, loaded, valid, audit, first, second, fun setting listed =>
    have given := tables file first given second setting listed
    ⟨given, byPrecedence setting listed given⟩⟩

/-- A workspace with a file that sets a setting, and another that gives the group as a list. -/
def listedOverTable : Workspace :=
  ⟨⟨[(["ecocompute.toml"], .file "[audit]\nmax_files = 3\n".toUTF8),
      (["c.toml"], .file "audit = [\"critical\"]\n".toUTF8)]⟩, []⟩

/-- A list in place of a group takes away what the layers below set in it. -/
theorem load_listedOverTable :
    ∃ settings file given, load .inOrder listedOverTable [] (some "c.toml") = .ok settings ∧
      settings.audit = { severityThreshold := .critical, maxFiles := 50 } ∧
        ConfigFile.optionalLayer? .inOrder listedOverTable defaultFile = some file ∧
          givenLayer? .inOrder listedOverTable (some "c.toml") = some given ∧
            Setting.maxFiles ∈ Setting.all ∧
              Setting.maxFiles.setBy? (Environment.layer []) = none ∧
                Setting.maxFiles.setBy? given = none ∧
                  (Setting.maxFiles.setBy? file).bind toWord64? = some 3 ∧
                    ¬ Setting.maxFiles.Has
                      ([Environment.layer [], given, file].findSome? Setting.maxFiles.setBy?)
                      settings := by
  have found : (load .inOrder listedOverTable [] (some "c.toml")).toOption.map (·.audit) =
      some { severityThreshold := .critical, maxFiles := 50 } := by
    decide +kernel
  obtain ⟨settings, loaded, audit⟩ := exists_of_audit found
  obtain ⟨file, given, -, first, second, -⟩ := exists_layers_of_load loaded
  have values : ∀ file ∈ ConfigFile.optionalLayer? .inOrder listedOverTable defaultFile,
      ∀ given ∈ givenLayer? .inOrder listedOverTable (some "c.toml"),
        Setting.maxFiles.setBy? (Environment.layer []) = none ∧
          Setting.maxFiles.setBy? given = none ∧
            (Setting.maxFiles.setBy? file).bind toWord64? = some 3 := by
    decide +kernel
  obtain ⟨notSet, notGiven, inFile⟩ := values file first given second
  refine ⟨settings, file, given, loaded, audit, first, second,
    by simp [Setting.all, Setting.ofAudit], notSet, notGiven, inFile, fun has => ?_⟩
  obtain ⟨value, inFile', converted⟩ := Option.bind_eq_some_iff.mp inFile
  simp only [List.findSome?_cons, notSet, notGiven, inFile'] at has
  have same : toWord64? value = some settings.audit.maxFiles := has
  rw [converted, audit] at same
  exact absurd (Option.some.inj same) (by decide)

end Settings

end EnergyAudit
