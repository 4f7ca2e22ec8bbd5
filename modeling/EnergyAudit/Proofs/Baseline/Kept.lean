import EnergyAudit.Calibration.Benchmark
import EnergyAudit.Probe.Output
import EnergyAudit.Proofs.Baseline.History
import EnergyAudit.Proofs.Baseline.Reread

/-! # What can be read after a save

A save that succeeds leaves a document that can be read, with the new key and every key that was
there before, if the doubles of the new baseline are finite.  If one of them is not, the save
succeeds as well, but the document is lost: it cannot be read, and the next save starts from
nothing. -/

namespace EnergyAudit

open Workspace

def Baseline.Finite (baseline : Baseline) : Prop :=
  ∀ x ∈ baseline.doubles, x.isFinite = true

instance (baseline : Baseline) : Decidable baseline.Finite :=
  inferInstanceAs (Decidable (∀ x ∈ baseline.doubles, x.isFinite = true))

namespace BaselineDocument

variable {document again : BaselineDocument} {baseline : Baseline} {key : String}

/-- A document of finite doubles comes back if it gets another baseline that is finite. -/
theorem exists_reread?_insert (old : ∀ x ∈ document.doubles, x.isFinite = true) :
    (∃ again, (document.insert baseline).reread? = some again) ↔ baseline.Finite := by
  rw [← Option.isSome_iff_exists, isSome_reread?, List.all_eq_true]
  constructor
  · intro finite x double
    have listed : (baseline.key, baseline) ∈ (document.insert baseline).baselines.entries :=
      SortedMap.mem_entries_of_find? (SortedMap.find?_insert_same _ _ _)
    exact finite x (List.mem_flatMap.mpr ⟨_, listed, double⟩)
  · intro finite x double
    obtain ⟨entry, listed, double⟩ := List.mem_flatMap.mp double
    rcases SortedMap.mem_insertEntry listed with rfl | before
    · exact finite x double
    · exact old x (List.mem_flatMap.mpr ⟨entry, before, double⟩)

theorem exists_find?_of_reread? (read : document.reread? = some again) (key : String) :
    (∃ baseline, again.baselines.find? key = some baseline) ↔
      ∃ baseline, document.baselines.find? key = some baseline := by
  rw [find?_of_reread? read]
  cases found : document.baselines.find? key with
  | none => simp
  | some baseline =>
      have all : document.reread?.isSome = true := by rw [read]; rfl
      rw [isSome_reread?, List.all_eq_true] at all
      have back : baseline.reread?.isSome = true := by
        rw [Baseline.isSome_reread?, List.all_eq_true]
        intro x double
        have listed := SortedMap.mem_entries_of_find? found
        exact all x (List.mem_flatMap.mpr ⟨_, listed, double⟩)
      simpa [Option.isSome_iff_exists] using back

theorem exists_find?_insert (document : BaselineDocument) (baseline : Baseline) (key : String) :
    (∃ found, (document.insert baseline).baselines.find? key = some found) ↔
      key = baseline.key ∨ ∃ found, document.baselines.find? key = some found := by
  by_cases same : key = baseline.key
  · subst same
    exact iff_of_true ⟨_, SortedMap.find?_insert_same _ _ _⟩ (.inl rfl)
  · rw [insert, SortedMap.find?_insert_other _ _ same]
    exact ⟨.inr, fun found => found.resolve_left same⟩

end BaselineDocument

namespace BaselineStore

def CanRead (store : BaselineStore) (w : Workspace) : Prop :=
  ∃ document, store.read w = .ok (some document)

/-- The document can be read and has a baseline under the key. -/
def HasKey (store : BaselineStore) (w : Workspace) (key : String) : Prop :=
  ∃ document baseline, store.read w = .ok (some document) ∧
    document.baselines.find? key = some baseline

/-- The keys that could be read in the first workspace can be read in the second one. -/
def KeepsKeys (store : BaselineStore) (w w' : Workspace) : Prop :=
  ∀ key, store.HasKey w key → store.HasKey w' key

def NamesLink (store : BaselineStore) (w : Workspace) : Prop :=
  ∃ location target,
    w.tree.locate w.directory false store.path = .ok (.present location (.link target))

/-- The save succeeds with the key, and leads from one workspace to the other. -/
structure SavesAs (store : BaselineStore) (faults : Faults) (w : Workspace) (baseline : Baseline)
    (key : String) (after : Workspace) : Prop where
  result : (store.save faults w baseline).result = .ok key
  final : (store.save faults w baseline).final w = after

variable {store : BaselineStore} {faults : Faults} {w w' after : Workspace} {place : Place}
  {location : Location} {document : BaselineDocument} {baseline : Baseline} {key : String}

/-! ## Reading what was written -/

theorem isFinite_of_read (found : store.read w = .ok (some document)) :
    ∀ x ∈ document.doubles, x.isFinite = true := by
  unfold BaselineStore.read at found
  split at found
  · exact nomatch found
  · exact nomatch found
  · split at found
    · exact nomatch found
    · split at found
      · rename_i parsed
        obtain rfl := Option.some.inj (Except.ok.inj found)
        exact BaselineDocument.isFinite_of_parse parsed
      · exact nomatch found

theorem isFinite_before (store : BaselineStore) (faults : Faults) (w : Workspace) :
    ∀ x ∈ (store.before faults w).doubles, x.isFinite = true := by
  unfold before
  split
  · exact nofun
  · unfold readable
    split
    · rename_i found
      exact isFinite_of_read found
    · exact nofun

/-- What is read where a document was written is what comes back of it. -/
theorem Keeps.read_eq_ok (keeps : store.Keeps w location (document.render ++ "\n").toUTF8)
    (again : BaselineDocument) :
    store.read w = .ok (some again) ↔ document.reread? = some again := by
  have parsed := document.toOption_parse_render
  simp only [BaselineStore.read, keeps.read, Text.decode?_toUTF8]
  cases result : BaselineDocument.parse (document.render ++ "\n") with
  | ok d =>
      rw [result] at parsed
      simp [← parsed, Except.toOption]
  | error e =>
      rw [result] at parsed
      simp [← parsed, Except.toOption]

theorem Keeps.hasKey_iff (keeps : store.Keeps w location (document.render ++ "\n").toUTF8)
    (read : store.CanRead w) (key : String) :
    store.HasKey w key ↔ ∃ baseline, document.baselines.find? key = some baseline := by
  obtain ⟨again, found⟩ := read
  have same := (keeps.read_eq_ok again).mp found
  rw [← BaselineDocument.exists_find?_of_reread? same]
  constructor
  · rintro ⟨other, baseline, read, known⟩
    rw [found] at read
    obtain rfl := Option.some.inj (Except.ok.inj read)
    exact ⟨baseline, known⟩
  · rintro ⟨baseline, known⟩
    exact ⟨again, baseline, found, known⟩

theorem Opens.isDirectory_of_canRead (opens : store.Opens w w' place) (read : store.CanRead after) :
    after.isDirectory store.directory = true := by
  obtain ⟨document, read⟩ := read
  have usable := (isDirectory_iff.mp opens.directory).1
  unfold BaselineStore.read at read
  cases held : after.read store.path with
  | ok content =>
      obtain ⟨location, _, leads, _⟩ := exists_leadsTo_of_read held
      exact isDirectory_iff.mpr ⟨usable, location, leads⟩
  | error e =>
      rw [held] at read
      cases e <;> exact nomatch read

theorem Opens.eq_of_canRead (opens : store.Opens w w' place) (read : store.CanRead w) : w' = w := by
  obtain ⟨_, _, leads⟩ := isDirectory_iff.mp (opens.isDirectory_of_canRead read)
  exact (makeDirectories_of_leadsTo leads opens.made).1

/-- Where nothing can be read, a save starts from nothing. -/
theorem before_of_not_canRead (unread : ¬ store.CanRead w) (faults : Faults) :
    store.before faults w = .empty := by
  unfold before
  split
  · rfl
  · unfold readable
    split
    · rename_i found
      exact absurd ⟨_, found⟩ unread
    · rfl

/-! ## One save -/

/-- What a save that succeeds has done. -/
theorem SavesAs.exists_opens (saved : store.SavesAs faults w baseline key after) :
    ∃ w' place, store.Opens w w' place ∧ key = baseline.key ∧
      after = w'.put place.location (fileOf ((store.before faults w').insert baseline)) ∧
        (after.isDirectory store.directory = true → store.Keeps after place.location
          (((store.before faults w').insert baseline).render ++ "\n").toUTF8) := by
  obtain ⟨same, calm, w', place, opens⟩ := exists_opens_of_save saved.result
  have final := saved.final.symm.trans (opens.save calm baseline).2
  refine ⟨w', place, opens, same, final, ?_⟩
  rintro directory
  rw [final] at directory ⊢
  exact opens.keeps_of_isDirectory directory

theorem SavesAs.isDirectory_of_canRead (saved : store.SavesAs faults w baseline key after)
    (read : store.CanRead after) : after.isDirectory store.directory = true := by
  obtain ⟨_, _, opens, _⟩ := saved.exists_opens
  exact opens.isDirectory_of_canRead read

theorem SavesAs.canRead_iff (saved : store.SavesAs faults w baseline key after) :
    store.CanRead after ↔ baseline.Finite ∧ after.isDirectory store.directory = true := by
  obtain ⟨w', place, opens, _, _, keeps⟩ := saved.exists_opens
  have back :
      (∃ again, ((store.before faults w').insert baseline).reread? = some again) ↔ _ :=
    BaselineDocument.exists_reread?_insert (isFinite_before store faults w')
  constructor
  · intro read
    have directory := opens.isDirectory_of_canRead read
    obtain ⟨again, found⟩ := read
    exact ⟨back.mp ⟨again, ((keeps directory).read_eq_ok again).mp found⟩, directory⟩
  · rintro ⟨finite, directory⟩
    obtain ⟨again, same⟩ := back.mpr finite
    exact ⟨again, ((keeps directory).read_eq_ok again).mpr same⟩

/-- The directory of the document is lost only to a document that takes the place of a link. -/
theorem SavesAs.isDirectory_or_namesLink (saved : store.SavesAs faults w baseline key after) :
    after.isDirectory store.directory = true ∨
      store.NamesLink (w.makeDirectories store.directory).1 := by
  obtain ⟨w', place, opens, _, rfl, _⟩ := saved.exists_opens
  by_cases link : ∃ path, place.entry? = some (.link path)
  · obtain ⟨path, link⟩ := link
    right
    cases place with
    | vacant location => exact nomatch link
    | present location entry =>
        obtain rfl := Option.some.inj link
        rw [opens.made]
        exact ⟨location, path, opens.located⟩
  · left
    exact opens.isDirectory_put (fun path same => link ⟨path, same⟩) _

theorem SavesAs.hasKey (saved : store.SavesAs faults w baseline key after)
    (read : store.CanRead after) : store.HasKey after key := by
  obtain ⟨w', place, opens, rfl, _, keeps⟩ := saved.exists_opens
  exact ((keeps (opens.isDirectory_of_canRead read)).hasKey_iff read _).mpr
    ((BaselineDocument.exists_find?_insert ..).mpr (.inl rfl))

theorem SavesAs.keepsKeys (saved : store.SavesAs faults w baseline key after)
    (read : store.CanRead after) (reads : faults .read = false) : store.KeepsKeys w after := by
  obtain ⟨w', place, opens, _, _, keeps⟩ := saved.exists_opens
  rintro old ⟨document, found, known, listed⟩
  obtain rfl := opens.eq_of_canRead ⟨document, known⟩
  refine ((keeps (opens.isDirectory_of_canRead read)).hasKey_iff read _).mpr
    ((BaselineDocument.exists_find?_insert ..).mpr (.inr ?_))
  have start : store.before faults w' = document := by
    rw [before, reads]
    exact readable_of_read known
  rw [start]
  exact ⟨found, listed⟩

/-! ## The save after it -/

variable {faults' : Faults} {other : Baseline} {otherKey : String} {last : Workspace}

/-- The save after it finds the document in its place, and leaves the directory as it is. -/
theorem SavesAs.opens_next (saved : store.SavesAs faults w baseline key after)
    (directory : after.isDirectory store.directory = true)
    (next : store.SavesAs faults' after other otherKey last) :
    (∃ place, store.Opens after after place) ∧ last.isDirectory store.directory = true := by
  obtain ⟨_, _, _, _, _, keeps⟩ := saved.exists_opens
  obtain ⟨_, _, opens, _, rfl, _⟩ := next.exists_opens
  obtain ⟨rfl, rfl, _⟩ := (keeps directory).opens opens
  exact ⟨⟨_, opens⟩, isDirectory_put_file (keeps directory) directory _⟩

theorem SavesAs.keepsKeys_next (saved : store.SavesAs faults w baseline key after)
    (read : store.CanRead after) (next : store.SavesAs faults' after other otherKey last)
    (reads : faults' .read = false) (finite : other.Finite) : store.KeepsKeys after last := by
  obtain ⟨_, directory⟩ := saved.opens_next (saved.isDirectory_of_canRead read) next
  exact next.keepsKeys (next.canRead_iff.mpr ⟨finite, directory⟩) reads

/-- A document that cannot be read is gone with the save after it. -/
theorem SavesAs.eq_key_of_not_finite (saved : store.SavesAs faults w baseline key after)
    (lost : ¬ baseline.Finite) (directory : after.isDirectory store.directory = true)
    (next : store.SavesAs faults' after other otherKey last) {old : String}
    (hasKey : store.HasKey last old) : old = otherKey := by
  -- The second save takes the document for an empty one.
  have unread : ¬ store.CanRead after := fun read => lost (saved.canRead_iff.mp read).1
  obtain ⟨⟨_, opens⟩, there⟩ := saved.opens_next directory next
  obtain ⟨w', _, opens', rfl, _, keeps⟩ := next.exists_opens
  obtain rfl : after = w' := congrArg Prod.fst (opens.made.symm.trans opens'.made)
  have read : store.CanRead last := by
    obtain ⟨document, _, found, _⟩ := hasKey
    exact ⟨document, found⟩
  have listed := ((keeps there).hasKey_iff read old).mp hasKey
  rw [before_of_not_canRead unread, BaselineDocument.exists_find?_insert] at listed
  exact listed.resolve_right fun ⟨_, found⟩ => nomatch found

/-! ## What every save leaves -/

/-- A save without failures takes place where its directories can be made. -/
theorem Opens.savesAs (opens : store.Opens w w' place) (baseline : Baseline) :
    store.SavesAs Faults.none w baseline baseline.key
      (w'.put place.location (fileOf ((store.before Faults.none w').insert baseline))) := by
  obtain ⟨result, final⟩ := opens.save (fun _ _ => rfl : Calm Faults.none) baseline
  exact ⟨result, final⟩

theorem exists_plain_savesAs (first second third : Baseline) :
    ∃ one two three, plain.SavesAs Faults.none ⟨.empty, []⟩ first first.key one ∧
      plain.SavesAs Faults.none one second second.key two ∧
        plain.SavesAs Faults.none two third third.key three ∧
          one.isDirectory plain.directory = true ∧ two.isDirectory plain.directory = true :=
  ⟨_, _, _, plain_opens.savesAs first, (plain_opens_put _).savesAs second,
    (plain_opens_put _).savesAs third, by rfl, by rfl⟩

/-- After a save that succeeds the document can be read if and only if the doubles of its baseline
are finite and its directory is still there, which it is unless the document took the place of a
link.  If it can be read, it has the new key and every key that could be read before, and a save
after it that adds finite doubles keeps them too.  If a double is not finite, the save after it
leaves no key but its own. -/
theorem keys_of_save (saved : store.SavesAs faults w baseline key after) :
    (store.CanRead after ↔ baseline.Finite ∧ after.isDirectory store.directory = true) ∧
    (after.isDirectory store.directory = true ∨
      store.NamesLink (w.makeDirectories store.directory).1) ∧
    (store.CanRead after →
      store.HasKey after key ∧ (faults .read = false → store.KeepsKeys w after)) ∧
    ∀ faults' other otherKey last, store.SavesAs faults' after other otherKey last →
      (store.CanRead after → faults' .read = false → other.Finite →
        store.KeepsKeys after last) ∧
      (¬ baseline.Finite → after.isDirectory store.directory = true →
        ∀ old, store.HasKey last old → old = otherKey) := by
  refine ⟨saved.canRead_iff, saved.isDirectory_or_namesLink,
    fun read => ⟨saved.hasKey read, saved.keepsKeys read⟩, ?_⟩
  intro faults' other otherKey last next
  exact ⟨fun read reads finite => saved.keepsKeys_next read next reads finite,
    fun lost directory _ hasKey => saved.eq_key_of_not_finite lost directory next hasKey⟩

theorem first_key_of_plain_saves :
    ∃ after last,
      plain.SavesAs Faults.none ⟨.empty, []⟩ { hardwareFingerprint := "a" } "a" after ∧
      plain.SavesAs Faults.none after { hardwareFingerprint := "b" } "b" last ∧
        plain.HasKey last "a" := by
  obtain ⟨after, last, _, saved, next, _, directory, _⟩ :=
    exists_plain_savesAs { hardwareFingerprint := "a" } { hardwareFingerprint := "b" } {}
  obtain ⟨canRead, _, kept, later⟩ := keys_of_save saved
  have read := canRead.mpr ⟨by decide +kernel, directory⟩
  have keeps := (later _ _ _ _ next).1 read rfl (by decide +kernel)
  exact ⟨after, last, saved, next, keeps "a" (kept read).1⟩

/-- The mean of two power draws that can be reported need not be finite.  A save of that mean makes
the document unreadable, and the save after it leaves none of the keys before. -/
theorem mean_of_great_draws_loses_keys :
    Probe.powerDraw? "1e308\n".toList = some 1e308 ∧
      ∃ w after last,
        plain.HasKey w "k" ∧
        plain.SavesAs Faults.none w
          { hardwareFingerprint := "a", avgPowerDrawW := mean [1e308, 1e308] } "a" after ∧
        ¬ plain.CanRead after ∧
        plain.SavesAs Faults.none after { hardwareFingerprint := "b" } "b" last ∧
        ∀ key, plain.HasKey last key → key = "b" := by
  obtain ⟨w, after, last, first, second, third, there, directory⟩ :=
    exists_plain_savesAs { hardwareFingerprint := "k" }
      { hardwareFingerprint := "a", avgPowerDrawW := mean [1e308, 1e308] }
      { hardwareFingerprint := "b" }
  have infinite : ¬ ({ hardwareFingerprint := "a", avgPowerDrawW := mean [1e308, 1e308] } :
      Baseline).Finite := by decide +kernel
  have start := first.canRead_iff.mpr ⟨by decide +kernel, there⟩
  exact ⟨by decide +kernel, w, after, last, first.hasKey start, second,
    fun read => infinite (second.canRead_iff.mp read).1, third,
    fun _ hasKey => second.eq_key_of_not_finite infinite directory third hasKey⟩

end BaselineStore

end EnergyAudit
