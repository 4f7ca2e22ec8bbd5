import EnergyAudit.Hardware.Detection
import EnergyAudit.Proofs.Baseline.Choice
import EnergyAudit.Proofs.Count
import EnergyAudit.Proofs.Json.Number
import EnergyAudit.Proofs.Text.Lines

/-! # Fingerprints of machines

A machine's fingerprint has a fixed number of digits, and so is never taken for lack of one.  A
machine is known by its name, its driver and its memory.  The text that is made of the three is a
text of no other machine, so that two machines with one fingerprint are two texts whose digests
begin alike. -/

namespace EnergyAudit

theorem length_fingerprint (name driverVersion : String) (vramTotalMb : UInt64) :
    (fingerprint name driverVersion vramTotalMb).length = fingerprintLength := by
  simp [fingerprint, Sha256.hex_length, fingerprintLength]

theorem isFingerprint_fingerprint (name driverVersion : String) (vramTotalMb : UInt64) :
    Baseline.IsFingerprint (fingerprint name driverVersion vramTotalMb) := by
  have length := length_fingerprint name driverVersion vramTotalMb
  constructor
  · intro same
    rw [same] at length
    exact absurd length (by decide)
  · intro same
    rw [same] at length
    exact absurd length (by decide)

theorem HardwareProfile.hardwareFingerprint_withTable (profile : HardwareProfile) :
    profile.withTable.hardwareFingerprint = profile.hardwareFingerprint := by
  unfold withTable
  split <;> rfl

theorem HardwareProfile.isFingerprint_resolve (query : Option GpuQuery)
    (cudaVersion : Option String) :
    Baseline.IsFingerprint (resolve query cudaVersion).hardwareFingerprint := by
  cases query with
  | none => exact isFingerprint_fingerprint ..
  | some query =>
      rw [resolve, hardwareFingerprint_withTable]
      exact isFingerprint_fingerprint ..

/-! ## Digests -/

namespace Sha256

/-- Two lists of bytes whose digests in hexadecimal begin with the same digits. -/
structure Collides (count : Nat) (first second : List UInt8) : Prop where
  different : first ≠ second
  alike : (hex first).take count = (hex second).take count

/-- What a digest is written with. -/
def digits : List Char := "0123456789abcdef".toList

theorem mem_digits_of_mem_hexWord {word : UInt32} {c : Char} (member : c ∈ hexWord word) :
    c ∈ digits := by
  have digit : ∀ n < 16, (if n < 10 then Char.ofNat ('0'.toNat + n)
      else Char.ofNat ('a'.toNat + (n - 10))) ∈ digits := by decide
  rw [hexWord, List.mem_map] at member
  obtain ⟨place, -, rfl⟩ := member
  exact digit _ (Nat.mod_lt _ (by decide))

theorem mem_digits_of_mem_hex {bytes : List UInt8} {c : Char} (member : c ∈ hex bytes) :
    c ∈ digits := by
  obtain ⟨word, -, inside⟩ := List.mem_flatMap.mp member
  exact mem_digits_of_mem_hexWord inside

end Sha256

/-- Twelve hexadecimal digits in small letters. -/
structure IsDigestStart (text : String) : Prop where
  length : text.length = 12
  digits : ∀ c ∈ text.toList, c ∈ Sha256.digits

theorem isDigestStart_fingerprint (name driverVersion : String) (vramTotalMb : UInt64) :
    IsDigestStart (fingerprint name driverVersion vramTotalMb) where
  length := length_fingerprint name driverVersion vramTotalMb
  digits := by
    intro c member
    rw [fingerprint, String.toList_ofList] at member
    exact Sha256.mem_digits_of_mem_hex (List.mem_of_mem_take member)

/-! ## Machines -/

/-- What a machine is known by. -/
structure MachineIdentity where
  name : String
  driverVersion : String
  vramTotalMb : UInt64
deriving DecidableEq

namespace MachineIdentity

/-- The text that stands for the machine. -/
def text (identity : MachineIdentity) : String :=
  machineText identity.name identity.driverVersion identity.vramTotalMb

def fingerprint (identity : MachineIdentity) : String :=
  EnergyAudit.fingerprint identity.name identity.driverVersion identity.vramTotalMb

/-- What a machine that gave this answer is known by. -/
def ofQuery : Option GpuQuery → MachineIdentity
  | none => ⟨HardwareProfile.noGpuName, "", 0⟩
  | some query => ⟨query.name, query.driverVersion, query.vramTotalMb⟩

/-- Whether the driver can be told from what stands before it. -/
def HasPlainDriver (identity : MachineIdentity) : Prop := '|' ∉ identity.driverVersion.toList

variable {identity other : MachineIdentity}

theorem toList_text (identity : MachineIdentity) :
    identity.text.toList = identity.name.toList ++ '|' :: (identity.driverVersion.toList ++
      '|' :: Nat.toDigits 10 identity.vramTotalMb.toNat) := by
  have bar : "|".toList = ['|'] := rfl
  have number : (toString identity.vramTotalMb.toNat).toList =
      Nat.toDigits 10 identity.vramTotalMb.toNat := Nat.toList_repr
  simp only [text, machineText, String.toList_append, bar, number, List.append_assoc,
    List.cons_append, List.nil_append]

theorem not_mem_toDigits (n : Nat) : '|' ∉ Nat.toDigits 10 n :=
  fun member => absurd (Json.all_isDigit_toDigits n '|' member) (by decide)

/-- Where the driver has no bar, it and the memory are the last two pieces between bars. -/
theorem splitOn_text (plain : identity.HasPlainDriver) :
    Text.splitOn '|' identity.text.toList = Text.splitOn '|' identity.name.toList ++
      [identity.driverVersion.toList, Nat.toDigits 10 identity.vramTotalMb.toNat] := by
  rw [toList_text, Text.splitOn_append_separator, Text.splitOn_append plain,
    Text.splitOn_of_not_mem (not_mem_toDigits _)]

theorem eq_of_text_eq (plain : identity.HasPlainDriver) (plain' : other.HasPlainDriver)
    (same : identity.text = other.text) : identity = other := by
  have pieces := congrArg (fun text => Text.splitOn '|' text.toList) same
  simp only [splitOn_text plain, splitOn_text plain'] at pieces
  obtain ⟨-, last⟩ := List.append_inj' pieces rfl
  simp only [List.cons.injEq, and_true] at last
  obtain ⟨drivers, digits⟩ := last
  have memories := congrArg Decimal.natOfDigits digits
  rw [Json.natOfDigits_toDigits, Json.natOfDigits_toDigits] at memories
  have whole := congrArg String.toList same
  rw [toList_text, toList_text, drivers, digits] at whole
  have names := List.append_cancel_right whole
  cases identity
  cases other
  simp_all [String.toList_inj, UInt64.toNat_inj]

theorem text_inj (plain : identity.HasPlainDriver) (plain' : other.HasPlainDriver) :
    identity.text = other.text ↔ identity = other :=
  ⟨eq_of_text_eq plain plain', congrArg text⟩

theorem fingerprint_eq_iff :
    identity.fingerprint = other.fingerprint ↔
      (Sha256.hex identity.text.toUTF8.toList).take fingerprintLength =
        (Sha256.hex other.text.toUTF8.toList).take fingerprintLength :=
  String.ofList_inj

/-- Machines share a fingerprint only if they are one, or if the digests of their texts begin
alike. -/
theorem eq_or_collides_iff (plain : identity.HasPlainDriver) (plain' : other.HasPlainDriver) :
    identity.fingerprint = other.fingerprint ↔
      identity = other ∨
        Sha256.Collides fingerprintLength identity.text.toUTF8.toList other.text.toUTF8.toList := by
  rw [fingerprint_eq_iff]
  constructor
  · intro alike
    by_cases same : identity = other
    · exact .inl same
    · refine .inr ⟨fun bytes => same ?_, alike⟩
      exact eq_of_text_eq plain plain' (Text.toList_toUTF8_inj.mp bytes)
  · rintro (rfl | collision)
    · rfl
    · exact collision.alike

end MachineIdentity

/-! ## Profiles -/

namespace HardwareProfile

/-- What the fingerprint of a profile is: where it comes from, how it looks, and what it is to the
baselines of runs and to a store that looks for one. -/
structure IsKeyedBy (profile : HardwareProfile) (identity : MachineIdentity) : Prop where
  source : profile.hardwareFingerprint = identity.fingerprint
  form : IsDigestStart profile.hardwareFingerprint
  key : ∀ calibration counts origin baseline,
    Baseline.ofRun? profile calibration counts origin = some baseline →
      baseline.key = profile.hardwareFingerprint ∧ baseline.key ≠ Baseline.defaultKey
  kept : ∀ calibration (counts : SeverityCounts) origin,
    counts.critical.toNat + counts.warning.toNat + counts.info.toNat < UInt64.size →
      ∃ baseline, Baseline.ofRun? profile calibration counts origin = some baseline
  first : ∀ (store : BaselineStore) (w : Workspace),
    store.load? w profile.hardwareFingerprint =
      ((store.readable w).baselines.find? profile.hardwareFingerprint).or
        ((store.readable w).latest?.map (·.2))

variable (query : Option GpuQuery) (cudaVersion : Option String)

theorem hardwareFingerprint_resolve :
    (resolve query cudaVersion).hardwareFingerprint = (MachineIdentity.ofQuery query).fingerprint := by
  cases query with
  | none => rfl
  | some query => rw [resolve, hardwareFingerprint_withTable, MachineIdentity.ofQuery]; rfl

theorem instanceCount_withTable (profile : HardwareProfile) :
    profile.withTable.instanceCount = profile.instanceCount := by
  unfold withTable
  split <;> rfl

/-- Whoever answers has a processor, whatever number the answer gives. -/
theorem hasGpu_resolve : (resolve query cudaVersion).hasGpu = query.isSome := by
  cases query with
  | none => rfl
  | some query =>
      rw [hasGpu, resolve, instanceCount_withTable, Option.isSome_some, decide_eq_true_eq]
      dsimp only
      split
      · decide
      · rename_i several
        rw [beq_iff_eq] at several
        exact UInt32.pos_iff_ne_zero.mpr several

theorem profile_detect (answers : MachineAnswers) :
    answers.detect.profile =
      resolve answers.query (answers.toolkit.or answers.fallback) := by
  obtain ⟨query, toolkit, fallback⟩ := answers
  cases query <;> cases toolkit <;> rfl

theorem isKeyedBy_resolve : (resolve query cudaVersion).IsKeyedBy (.ofQuery query) where
  source := hardwareFingerprint_resolve query cudaVersion
  form := by
    rw [hardwareFingerprint_resolve]
    exact isDigestStart_fingerprint ..
  key := by
    intro calibration counts origin baseline made
    have proper := isFingerprint_resolve query cudaVersion
    rw [Baseline.ofRun?, Option.map_eq_some_iff] at made
    obtain ⟨total, -, taken⟩ := made
    have same : baseline.key = (resolve query cudaVersion).hardwareFingerprint :=
      proper.key_eq_iff.mpr (by rw [← taken])
    exact ⟨same, same ▸ proper.special⟩
  kept := by
    intro calibration counts origin few
    rw [Baseline.ofRun?, SeverityCounts.total?_eq few]
    exact ⟨_, rfl⟩
  first := by
    intro store w
    have proper := isFingerprint_resolve query cudaVersion
    rw [BaselineStore.load?_eq, BaselineDocument.select?, if_neg (by simpa using proper.nonempty)]

/-- A profile is kept under the start of a digest that comes from name, driver and memory alone.
Two machines whose drivers have no bar share it only if the digests of two texts begin alike. -/
theorem identity_of_resolve :
    (∀ query cudaVersion, (resolve query cudaVersion).IsKeyedBy (.ofQuery query) ∧
        (resolve query cudaVersion).hasGpu = query.isSome) ∧
      (∀ answers : MachineAnswers,
        answers.detect.profile = resolve answers.query (answers.toolkit.or answers.fallback) ∧
          answers.detect.profile.hasGpu = answers.query.isSome) ∧
      (∀ query query' cudaVersion cudaVersion',
        MachineIdentity.ofQuery query = .ofQuery query' →
          (resolve query cudaVersion).hardwareFingerprint =
            (resolve query' cudaVersion').hardwareFingerprint) ∧
      (∀ identity other : MachineIdentity, identity.HasPlainDriver → other.HasPlainDriver →
        (identity.text = other.text ↔ identity = other)) ∧
      ∀ query query' cudaVersion cudaVersion',
        (MachineIdentity.ofQuery query).HasPlainDriver →
          (MachineIdentity.ofQuery query').HasPlainDriver →
            ((resolve query cudaVersion).hardwareFingerprint =
                (resolve query' cudaVersion').hardwareFingerprint ↔
              MachineIdentity.ofQuery query = .ofQuery query' ∨
                Sha256.Collides fingerprintLength
                  (MachineIdentity.ofQuery query).text.toUTF8.toList
                  (MachineIdentity.ofQuery query').text.toUTF8.toList) := by
  refine ⟨fun query cudaVersion => ⟨isKeyedBy_resolve query cudaVersion, hasGpu_resolve ..⟩,
    fun answers => ⟨profile_detect answers, ?_⟩, fun query query' cudaVersion cudaVersion' same => ?_,
    fun identity other => MachineIdentity.text_inj,
    fun query query' cudaVersion cudaVersion' plain plain' => ?_⟩
  · rw [profile_detect, hasGpu_resolve]
  · rw [hardwareFingerprint_resolve, hardwareFingerprint_resolve, same]
  · rw [hardwareFingerprint_resolve, hardwareFingerprint_resolve]
    exact MachineIdentity.eq_or_collides_iff plain plain'

/-- Counts and toolkits make no difference between machines, and drivers do. -/
theorem identity_of_answers :
    let machine := MachineIdentity.mk "NVIDIA A800" "535.1" 81920
    let newer := MachineIdentity.mk "NVIDIA A800" "535.2" 81920
    let profile := resolve (some ⟨"NVIDIA A800", "535.1", 81920, 0⟩) (some "12.2")
    let others := resolve (some ⟨"NVIDIA A800", "535.1", 81920, 4⟩) none
    let updated := resolve (some ⟨"NVIDIA A800", "535.2", 81920, 4⟩) none
    profile.hardwareFingerprint = others.hardwareFingerprint ∧
      (∃ baseline,
        Baseline.ofRun? profile (.empty .none) .zero ⟨"c", "main", "1"⟩ = some baseline ∧
          baseline.key = profile.hardwareFingerprint ∧ baseline.key ≠ Baseline.defaultKey) ∧
      machine.text ≠ newer.text ∧
      (profile.hardwareFingerprint = updated.hardwareFingerprint →
        Sha256.Collides fingerprintLength machine.text.toUTF8.toList newer.text.toUTF8.toList) := by
  obtain ⟨keyed, -, same, texts, shared⟩ := identity_of_resolve
  have plain : (MachineIdentity.mk "NVIDIA A800" "535.1" 81920).HasPlainDriver := by
    unfold MachineIdentity.HasPlainDriver
    decide
  have plain' : (MachineIdentity.mk "NVIDIA A800" "535.2" 81920).HasPlainDriver := by
    unfold MachineIdentity.HasPlainDriver
    decide
  have apart : MachineIdentity.mk "NVIDIA A800" "535.1" 81920 ≠ .mk "NVIDIA A800" "535.2" 81920 := by
    decide
  obtain ⟨⟨-, -, key, kept, -⟩, -⟩ :=
    keyed (some ⟨"NVIDIA A800", "535.1", 81920, 0⟩) (some "12.2")
  obtain ⟨baseline, made⟩ := kept (.empty .none) .zero ⟨"c", "main", "1"⟩ (by decide)
  refine ⟨same _ _ _ _ rfl, ⟨baseline, made, key _ _ _ _ made⟩, ?_, fun alike => ?_⟩
  · exact fun equal => apart ((texts _ _ plain plain').mp equal)
  · have either := shared (some ⟨"NVIDIA A800", "535.1", 81920, 0⟩)
      (some ⟨"NVIDIA A800", "535.2", 81920, 4⟩) (some "12.2") none plain plain'
    exact (either.mp alike).resolve_left apart

end HardwareProfile

end EnergyAudit
