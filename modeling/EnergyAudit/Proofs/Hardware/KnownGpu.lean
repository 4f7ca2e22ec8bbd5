import EnergyAudit.Hardware.Profile

/-! # Rows of the table that hide others

A name with a key in it has every part of the key in it as well.  So a row is found for no name if
its key contains the key of a row above it.  The table has two such rows: the one of the RTX 4090D,
which the RTX 4090 is meant to stand for, and the one of the L40S, which gets the figures of the
L4. -/

namespace EnergyAudit

namespace KnownGpu

variable {gpu other : KnownGpu} {name : String}

/-- Whether the name contains the key of the row, in any mixture of case. -/
def IsIn (gpu : KnownGpu) (name : String) : Prop :=
  gpu.key.toList <:+: Text.lower name.toList

/-- Whether the key of the row is a part of the other key. -/
def Covers (gpu other : KnownGpu) : Prop :=
  gpu.key ≠ other.key ∧ gpu.key.toList <:+: other.key.toList

def above (gpu : KnownGpu) : List KnownGpu := table.takeWhile (· != gpu)

instance (gpu : KnownGpu) (name : String) : Decidable (gpu.IsIn name) :=
  decidable_of_iff _ Text.contains_iff

instance (gpu other : KnownGpu) : Decidable (gpu.Covers other) :=
  inferInstanceAs (Decidable (_ ∧ _))

theorem matchesLowered_iff :
    matchesLowered (Text.lower name.toList) gpu = true ↔ gpu.IsIn name :=
  Text.contains_iff

theorem Covers.isIn (covers : gpu.Covers other) (named : other.IsIn name) : gpu.IsIn name :=
  covers.2.trans named

/-- The row that is found is in the table, and no row above it would do. -/
theorem of_lookup? (found : lookup? name = some gpu) :
    gpu ∈ table ∧ gpu.IsIn name ∧ ∀ earlier ∈ gpu.above, ¬ earlier.IsIn name := by
  obtain ⟨named, before, after, split, unnamed⟩ := List.find?_eq_some_iff_append.mp found
  have others : ∀ earlier ∈ before, (earlier != gpu) = true := by
    intro earlier member
    rw [bne_iff_ne]
    rintro rfl
    simpa [named] using unnamed earlier member
  have above : gpu.above = before := by
    rw [above, split, List.takeWhile_append_of_pos others, List.takeWhile_cons_of_neg (by simp),
      List.append_nil]
  refine ⟨split ▸ List.mem_append_right _ List.mem_cons_self, matchesLowered_iff.mp named, ?_⟩
  intro earlier member isIn
  rw [above] at member
  simpa [matchesLowered_iff.mpr isIn] using unnamed earlier member

/-- A row is hidden by a row above it whose key is a part of its own. -/
theorem lookup?_ne_of_covers (earlier : other ∈ gpu.above) (covers : other.Covers gpu) :
    lookup? name ≠ some gpu := by
  intro found
  obtain ⟨_, named, unnamed⟩ := of_lookup? found
  exact unnamed other earlier (covers.isIn named)

def l4 : KnownGpu := ⟨"l4", .ada, 89, 24, 72, 12⟩

def l40s : KnownGpu := ⟨"l40s", .ada, 89, 48, 350, 30⟩

/-- Whether the row is meant to serve for the other as well. -/
def StandsFor (gpu other : KnownGpu) : Prop :=
  gpu.key = "rtx 4090" ∧ other.key = "rtx 4090d"

/-- Whether the row is taken for a name that is one of an L40S. -/
def IsMistaken (gpu : KnownGpu) (name : String) : Prop :=
  gpu = l4 ∧ l40s.IsIn name

/-- Whether the key of the row contains that of a row above it. -/
def IsHidden (gpu : KnownGpu) : Prop :=
  gpu.key = "rtx 4090d" ∨ gpu = l40s

instance (gpu other : KnownGpu) : Decidable (gpu.StandsFor other) :=
  inferInstanceAs (Decidable (_ ∧ _))

instance (gpu : KnownGpu) : Decidable gpu.IsHidden :=
  inferInstanceAs (Decidable (_ ∨ _))

theorem standsFor_or_l4_of_covers : ∀ gpu ∈ table, ∀ other ∈ table, gpu.Covers other →
    gpu.StandsFor other ∨ gpu = l4 ∧ other = l40s := by
  decide +kernel

/-- Of the rows that a name may mean, the one that is found covers no other, unless it is meant to
stand for it or the name is that of an L40S. -/
theorem forall_standsFor_iff (member : gpu ∈ table) :
    (∀ other ∈ table, other.IsIn name → gpu.Covers other → gpu.StandsFor other) ↔
      ¬ gpu.IsMistaken name := by
  constructor
  · rintro meant ⟨rfl, named⟩
    exact absurd (meant l40s (by decide) named (by decide)) (by decide)
  · intro right other listed named covers
    rcases standsFor_or_l4_of_covers gpu member other listed covers with meant | ⟨row, rfl⟩
    · exact meant
    · exact absurd ⟨row, named⟩ right

theorem exists_above_of_isHidden : ∀ gpu ∈ table, gpu.IsHidden →
    ∃ earlier ∈ gpu.above, earlier.Covers gpu := by
  decide +kernel

theorem lookup?_key : ∀ gpu ∈ table, ¬ gpu.IsHidden → lookup? gpu.key = some gpu := by
  decide +kernel

theorem exists_lookup?_iff (member : gpu ∈ table) :
    (∃ name, lookup? name = some gpu) ↔ ¬ gpu.IsHidden := by
  constructor
  · rintro ⟨name, found⟩ hidden
    obtain ⟨earlier, first, covers⟩ := exists_above_of_isHidden gpu member hidden
    exact lookup?_ne_of_covers first covers found
  · intro seen
    exact ⟨gpu.key, lookup?_key gpu member seen⟩

structure Describes (gpu : KnownGpu) (profile : HardwareProfile) : Prop where
  known : profile.known = true
  architecture : profile.architecture = gpu.architecture
  power : profile.thermalDesignPowerW = gpu.tdpW
  idle : profile.idlePowerW = gpu.idleW
  scale : profile.energyScaleFactor = gpu.architecture.energyScale

theorem describes_withTable {profile : HardwareProfile}
    (found : lookup? profile.displayName = some gpu) : gpu.Describes profile.withTable := by
  unfold HardwareProfile.withTable
  rw [found]
  exact ⟨rfl, rfl, rfl, rfl, rfl⟩

theorem describes_resolve {query : GpuQuery} (found : lookup? query.name = some gpu)
    (cudaVersion : Option String) : gpu.Describes (.resolve (some query) cudaVersion) :=
  describes_withTable found

/-- A name gets the figures of a row that covers no other row that the name may mean, unless it is
meant to stand for it.  This holds of all names but those of an L40S that are taken for an L4.  Each
row is found for some name, apart from the two that are hidden by a shorter key above them. -/
theorem hides_only_l40s (name : String) (gpu : KnownGpu) :
    (lookup? name = some gpu →
      ((∀ other ∈ table, other.IsIn name → gpu.Covers other → gpu.StandsFor other) ↔
        ¬ gpu.IsMistaken name) ∧
      ∀ query cudaVersion, query.name = name →
        gpu.Describes (.resolve (some query) cudaVersion)) ∧
    (gpu ∈ table → ((∃ spelled, lookup? spelled = some gpu) ↔ ¬ gpu.IsHidden)) := by
  constructor
  · intro found
    refine ⟨forall_standsFor_iff (of_lookup? found).1, ?_⟩
    rintro query cudaVersion rfl
    exact describes_resolve found cudaVersion
  · intro member
    exact exists_lookup?_iff member

theorem hides_nothing_of_l4 :
    lookup? "NVIDIA L4" = some l4 ∧
      ∀ other ∈ table, other.IsIn "NVIDIA L4" → l4.Covers other → l4.StandsFor other := by
  have found : lookup? "NVIDIA L4" = some l4 := by decide +kernel
  have right : ¬ l4.IsMistaken "NVIDIA L4" := fun mistaken => absurd mistaken.2 (by decide +kernel)
  exact ⟨found, ((hides_only_l40s _ _).1 found).1.mpr right⟩

/-- An L40S is taken for an L4, and so for a model with a fifth of its power. -/
theorem l40s_gets_figures_of_l4 :
    lookup? "NVIDIA L40S" = some l4 ∧ l40s ∈ table ∧ l40s.IsIn "NVIDIA L40S" ∧
      l4.Covers l40s ∧ ¬ l4.StandsFor l40s ∧
        l4.Describes (.resolve (some ⟨"NVIDIA L40S", "550.54.14", 46068, 1⟩) none) := by
  have found : lookup? "NVIDIA L40S" = some l4 := by decide +kernel
  refine ⟨found, by decide, by decide +kernel, by decide, by decide, ?_⟩
  exact @describes_resolve _ ⟨"NVIDIA L40S", "550.54.14", 46068, 1⟩ found none

end KnownGpu

end EnergyAudit
