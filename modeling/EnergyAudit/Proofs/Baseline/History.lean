import EnergyAudit.Proofs.Baseline.Save
import Mathlib.Tactic.Tauto

/-! # Histories of saves

A document holds, for every key, the last baseline that was saved under it, and for every other key
what it held before the first save.  So a save loses nothing that was saved under another key, and
saves under different keys may trade places. -/

namespace EnergyAudit

/-- The last of the baselines that are kept under the key. -/
def Baseline.lastOf? (baselines : List Baseline) (key : String) : Option Baseline :=
  (baselines.filter (·.key == key)).getLast?

namespace BaselineDocument

/-- The document with the baselines under their keys, one after the other. -/
def insertAll (document : BaselineDocument) (baselines : List Baseline) : BaselineDocument :=
  baselines.foldl insert document

theorem insertAll_append (document : BaselineDocument) (baselines more : List Baseline) :
    document.insertAll (baselines ++ more) = (document.insertAll baselines).insertAll more :=
  List.foldl_append

/-- A document holds the last baseline of each key, or else what it held before. -/
theorem find?_insertAll (document : BaselineDocument) (baselines : List Baseline) (key : String) :
    (document.insertAll baselines).baselines.find? key =
      (Baseline.lastOf? baselines key).or (document.baselines.find? key) := by
  induction baselines generalizing document with
  | nil => rfl
  | cons baseline baselines ih =>
      have step := ih (document.insert baseline)
      rw [insertAll] at step ⊢
      rw [List.foldl_cons, step]
      by_cases same : baseline.key = key
      · subst same
        rw [Baseline.lastOf?, Baseline.lastOf?, List.filter_cons_of_pos (by simp), insert,
          SortedMap.find?_insert_same, List.getLast?_cons]
        cases (baselines.filter (·.key == baseline.key)).getLast? <;> rfl
      · rw [Baseline.lastOf?, Baseline.lastOf?, List.filter_cons_of_neg (by simpa using same),
          insert, SortedMap.find?_insert_other _ _ (Ne.symm same)]

theorem insertAll_swap (document : BaselineDocument) {first second : Baseline}
    (different : first.key ≠ second.key) (before after : List Baseline) :
    document.insertAll (before ++ second :: first :: after) =
      document.insertAll (before ++ first :: second :: after) := by
  have swapped (start : BaselineDocument) :
      (start.insert second).insert first = (start.insert first).insert second :=
    congrArg BaselineDocument.mk (start.baselines.insert_comm (Ne.symm different) second first)
  simp only [insertAll, List.foldl_append, List.foldl_cons, swapped]

theorem ReadsBack.insertAll {document : BaselineDocument} {baselines : List Baseline}
    (readsBack : document.ReadsBack) (added : ∀ baseline ∈ baselines, baseline.ReadsBack) :
    (document.insertAll baselines).ReadsBack := by
  induction baselines generalizing document with
  | nil => exact readsBack
  | cons baseline baselines ih =>
      exact ih (readsBack.insert (added baseline List.mem_cons_self))
        fun later member => added later (List.mem_cons_of_mem _ member)

theorem select?_of_find? {document : BaselineDocument} {key : String} {baseline : Baseline}
    (nonempty : key ≠ "") (found : document.baselines.find? key = some baseline) :
    document.select? key = some baseline := by
  simp [select?, nonempty, found]

end BaselineDocument

namespace BaselineStore

/-- Saves that succeed, one after the other, with nothing but the workspace to keep them from
reading the document. -/
inductive Saves (store : BaselineStore) : Workspace → List Baseline → Workspace → Prop
  | done (w : Workspace) : Saves store w [] w
  | save {w w' : Workspace} {baseline : Baseline} {baselines : List Baseline} {faults : Faults}
      {key : String} (reads : faults .read = false)
      (saved : (store.save faults w baseline).result = .ok key)
      (rest : Saves store ((store.save faults w baseline).final w) baselines w') :
      Saves store w (baseline :: baselines) w'

/-- The workspace `base` with the document in its place. -/
structure Holds (store : BaselineStore) (base : Workspace) (location : Location)
    (document : BaselineDocument) (w : Workspace) : Prop where
  state : w = base.put location (fileOf document)
  keeps : store.Keeps w location (document.render ++ "\n").toUTF8
  readsBack : document.ReadsBack

variable {store : BaselineStore} {w w' base : Workspace} {location : Location} {place : Place}
  {document : BaselineDocument} {baseline : Baseline} {baselines : List Baseline} {faults : Faults}

theorem Keeps.read_document
    (keeps : store.Keeps w location (document.render ++ "\n").toUTF8)
    (readsBack : document.ReadsBack) : store.read w = .ok (some document) := by
  simp only [BaselineStore.read, keeps.read, Text.decode?_toUTF8,
    BaselineDocument.parse_render readsBack]

theorem Holds.read (holds : store.Holds base location document w) :
    store.read w = .ok (some document) :=
  holds.keeps.read_document holds.readsBack

theorem readable_of_read (found : store.read w = .ok (some document)) :
    store.readable w = document := by
  simp only [readable, found]

theorem before_readsBack (old : (store.readable w).ReadsBack) (faults : Faults) :
    (store.before faults w).ReadsBack := by
  unfold before
  split
  · exact BaselineDocument.readsBack_empty
  · exact old

theorem Opens.read (opens : store.Opens w w' place) (apart : store.Apart w')
    (calm : Calm faults) (old : (store.readable w').ReadsBack) (added : baseline.ReadsBack) :
    store.read ((store.save faults w baseline).final w) =
      .ok (some ((store.before faults w').insert baseline)) := by
  obtain ⟨_, final⟩ := opens.save calm baseline
  rw [final]
  exact (opens.keeps apart _).read_document ((before_readsBack old faults).insert added)

/-- A save from where a document can be put leaves it there with the new baseline. -/
theorem Opens.holds (opens : store.Opens w w' place) (apart : store.Apart w')
    (calm : Calm faults) (reads : faults .read = false)
    (old : (store.readable w').ReadsBack) (added : baseline.ReadsBack) :
    store.Holds w' place.location ((store.readable w').insert baseline)
      ((store.save faults w baseline).final w) := by
  obtain ⟨_, final⟩ := opens.save calm baseline
  have start : store.before faults w' = store.readable w' := by simp [before, reads]
  rw [start] at final
  exact ⟨final, final ▸ opens.keeps apart _, old.insert added⟩

/-- One more save adds its baseline to the document, and changes nothing else. -/
theorem Holds.save {key : String} (holds : store.Holds base location document w)
    (reads : faults .read = false) (saved : (store.save faults w baseline).result = .ok key)
    (added : baseline.ReadsBack) :
    store.Holds base location (document.insert baseline)
      ((store.save faults w baseline).final w) := by
  obtain ⟨_, calm, w₁, place, opens⟩ := exists_opens_of_save saved
  obtain ⟨rfl, rfl, _⟩ := holds.keeps.opens opens
  have same := readable_of_read holds.read
  have next := opens.holds holds.keeps.apart calm reads (same ▸ holds.readsBack) added
  rw [same] at next
  refine ⟨?_, next.keeps, next.readsBack⟩
  rw [next.state, holds.state]
  exact congrArg (Workspace.mk · base.directory) (Tree.put_put ..)

theorem Saves.holds (saves : store.Saves w baselines w')
    (holds : store.Holds base location document w)
    (added : ∀ baseline ∈ baselines, baseline.ReadsBack) :
    store.Holds base location (document.insertAll baselines) w' := by
  induction saves generalizing document with
  | done w => exact holds
  | save reads saved _ ih =>
      exact ih (holds.save reads saved (added _ List.mem_cons_self))
        fun later member => added later (List.mem_cons_of_mem _ member)

/-- Where one document can be saved, it can be saved over any other document there. -/
theorem Holds.opens {other : BaselineDocument} {v : Workspace}
    (holds : store.Holds base location document w) (opens : store.Opens w w' place)
    (holdsOther : store.Holds base location other v) :
    store.Opens v v (.present location (fileOf other)) := by
  have state : v = w.put location (fileOf other) := by
    rw [holdsOther.state, holds.state]
    exact congrArg (Workspace.mk · base.directory) (Tree.put_put ..).symm
  rw [state]
  exact holds.keeps.opens_put opens (other.render ++ "\n").toUTF8

/-- From where one more document can be saved, all others can be. -/
theorem Holds.exists_saves (holds : store.Holds base location document w)
    (opens : store.Opens w w' place) (added : ∀ baseline ∈ baselines, baseline.ReadsBack) :
    ∃ w'', store.Saves w baselines w'' := by
  induction baselines generalizing document w w' place with
  | nil => exact ⟨w, .done w⟩
  | cons baseline baselines ih =>
      obtain ⟨saved, _⟩ := opens.save (fun _ _ => rfl : Calm Faults.none) baseline
      have next := holds.save rfl saved (added baseline List.mem_cons_self)
      obtain ⟨w'', rest⟩ := ih next (holds.opens opens next)
        fun later member => added later (List.mem_cons_of_mem _ member)
      exact ⟨w'', .save rfl saved rest⟩

/-- The first save of a settled document finds the directories and the place that all later ones
keep to. -/
theorem Settled.saves (settled : store.Settled w) (old : (store.readable w).ReadsBack)
    (added : ∀ baseline ∈ baselines, baseline.ReadsBack) (nonempty : baselines ≠ [])
    (saves : store.Saves w baselines w') :
    ∃ base place, store.Opens w base place ∧ store.Apart base ∧
      store.readable base = store.readable w ∧
        store.Holds base place.location ((store.readable w).insertAll baselines) w' := by
  cases saves with
  | done => exact absurd rfl nonempty
  | save reads saved rest =>
      obtain ⟨_, calm, base, place, opens⟩ := exists_opens_of_save saved
      obtain ⟨same, apart⟩ := settled.opens opens
      have first := opens.holds apart calm reads (same.symm ▸ old)
        (added _ List.mem_cons_self)
      rw [same] at first
      exact ⟨base, place, opens, apart, same,
        rest.holds first fun later member => added later (List.mem_cons_of_mem _ member)⟩

/-- Histories that put the same into the document end in the same workspace. -/
theorem Saves.eq_of_insertAll_eq {others : List Baseline} {w'' : Workspace}
    (settled : store.Settled w) (old : (store.readable w).ReadsBack)
    (added : ∀ baseline ∈ baselines, baseline.ReadsBack)
    (addedOthers : ∀ baseline ∈ others, baseline.ReadsBack)
    (nonempty : baselines ≠ []) (nonemptyOthers : others ≠ [])
    (same : (store.readable w).insertAll others = (store.readable w).insertAll baselines)
    (saves : store.Saves w baselines w') (savesOthers : store.Saves w others w'') : w'' = w' := by
  obtain ⟨base, place, opens, _, _, holds⟩ := settled.saves old added nonempty saves
  obtain ⟨base', place', opens', _, _, holds'⟩ :=
    settled.saves old addedOthers nonemptyOthers savesOthers
  have made := opens.made.symm.trans opens'.made
  simp only [Prod.mk.injEq, and_true] at made
  subst made
  have located := opens.located.symm.trans opens'.located
  simp only [Except.ok.injEq] at located
  subst located
  rw [holds.state, holds'.state, same]

/-- Where two saves or more have worked, any others would have worked. -/
theorem Saves.exists_others {others : List Baseline} (settled : store.Settled w)
    (old : (store.readable w).ReadsBack) (added : ∀ baseline ∈ baselines, baseline.ReadsBack)
    (addedOthers : ∀ baseline ∈ others, baseline.ReadsBack) (several : 2 ≤ baselines.length)
    (saves : store.Saves w baselines w') : ∃ w'', store.Saves w others w'' := by
  cases others with
  | nil => exact ⟨w, .done w⟩
  | cons other others =>
      cases saves with
      | done => exact absurd several (by decide)
      | save reads saved rest =>
          obtain ⟨_, calm, base, place, opens⟩ := exists_opens_of_save saved
          obtain ⟨same, apart⟩ := settled.opens opens
          have old' : (store.readable base).ReadsBack := same.symm ▸ old
          have holds := opens.holds apart calm reads old' (added _ List.mem_cons_self)
          cases rest with
          | done => exact absurd several (by simp)
          | save _ savedSecond _ =>
              obtain ⟨_, _, _, _, again⟩ := exists_opens_of_save savedSecond
              have calm : Calm Faults.none := fun _ _ => rfl
              obtain ⟨savedOther, _⟩ := opens.save calm other
              have start := opens.holds apart calm rfl old' (addedOthers other List.mem_cons_self)
              obtain ⟨w'', rest⟩ := start.exists_saves (holds.opens again start)
                fun later member => addedOthers later (List.mem_cons_of_mem _ member)
              exact ⟨w'', .save rfl savedOther rest⟩

theorem Saves.readable_eq (settled : store.Settled w) (old : (store.readable w).ReadsBack)
    (added : ∀ baseline ∈ baselines, baseline.ReadsBack) (saves : store.Saves w baselines w') :
    store.readable w' = (store.readable w).insertAll baselines := by
  cases baselines with
  | nil =>
      cases saves
      rfl
  | cons baseline baselines =>
      obtain ⟨_, _, _, _, _, holds⟩ := settled.saves old added (by simp) saves
      exact readable_of_read holds.read

/-- Saves under different keys may trade places. -/
theorem Saves.swap_iff {before after : List Baseline} {first second : Baseline} {w'' : Workspace}
    (settled : store.Settled w) (old : (store.readable w).ReadsBack)
    (added : ∀ baseline ∈ before ++ first :: second :: after, baseline.ReadsBack)
    (different : first.key ≠ second.key)
    (saves : store.Saves w (before ++ first :: second :: after) w') :
    store.Saves w (before ++ second :: first :: after) w'' ↔ w'' = w' := by
  have swapped : ∀ baseline ∈ before ++ second :: first :: after, baseline.ReadsBack := by
    intro baseline member
    apply added baseline
    simp only [List.mem_append, List.mem_cons] at member ⊢
    tauto
  have same {v : Workspace} (saves' : store.Saves w (before ++ second :: first :: after) v) :
      v = w' :=
    saves.eq_of_insertAll_eq settled old added swapped (by simp) (by simp)
      (BaselineDocument.insertAll_swap _ different before after) saves'
  constructor
  · exact same
  · rintro rfl
    obtain ⟨v, saves'⟩ := saves.exists_others settled old added swapped
      (by simp only [List.length_append, List.length_cons]; omega)
    exact same saves' ▸ saves'

/-! ## Two stores -/

/-- A store whose document lies in the working directory. -/
def plain : BaselineStore := ⟨"b.json"⟩

theorem plain_settled : plain.Settled ⟨.empty, []⟩ where
  proper := by
    intro location name entry found
    simp [Tree.entryAt?, Tree.empty] at found
  down := .inr (by rfl)
  apart := by
    intro location target located
    change Except.ok (Place.vacant ["b.json"]) = _ at located
    simp at located

theorem plain_opens : plain.Opens ⟨.empty, []⟩ ⟨.empty, []⟩ (.vacant ["b.json"]) :=
  ⟨by rfl, by rfl, by rfl, nofun⟩

theorem plain_opens_put (content : ByteArray) :
    plain.Opens ⟨Tree.empty.put ["b.json"] (.file content), []⟩
      ⟨Tree.empty.put ["b.json"] (.file content), []⟩ (.present ["b.json"] (.file content)) :=
  ⟨by rfl, by rfl, by rfl, nofun⟩

/-- A baseline with figures that are no whole numbers. -/
def measured (fingerprint timestamp : String) : Baseline where
  timestamp
  commitSha := "0123456789abcdef"
  branch := "main"
  gpuName := "NVIDIA L4"
  hardwareFingerprint := fingerprint
  benchmarkScoreTflops := 82.6
  avgPowerDrawW := 412.25
  energyPerTflopJoules := 4.990317
  totalIssues := 6
  criticalCount := 1
  warningCount := 2
  method := some .computeBenchmark

theorem readsBack_measured (fingerprint timestamp : String) :
    (measured fingerprint timestamp).ReadsBack where
  score := (by decide +kernel : Json.DoubleReadsBack 82.6)
  power := (by decide +kernel : Json.DoubleReadsBack 412.25)
  energy := (by decide +kernel : Json.DoubleReadsBack 4.990317)

theorem readable_plain : plain.readable ⟨.empty, []⟩ = .empty := by rfl

theorem exists_plain_saves (added : ∀ baseline ∈ baselines, baseline.ReadsBack) :
    ∃ w', plain.Saves ⟨.empty, []⟩ baselines w' := by
  cases baselines with
  | nil => exact ⟨_, .done _⟩
  | cons baseline baselines =>
      have calm : Calm Faults.none := fun _ _ => rfl
      obtain ⟨saved, final⟩ := plain_opens.save calm baseline
      have first := plain_opens.holds plain_settled.apart calm rfl
        (readable_plain ▸ BaselineDocument.readsBack_empty) (added _ List.mem_cons_self)
      rw [final] at first
      obtain ⟨w', rest⟩ := first.exists_saves (plain_opens_put _)
        fun later member => added later (List.mem_cons_of_mem _ member)
      exact ⟨w', .save rfl saved (final.symm ▸ rest)⟩

/-- A store whose path goes through a directory and back. -/
def roundabout : BaselineStore := ⟨"m/../x/d.json"⟩

/-- The workspace in which the directory that the path goes through is missing, so that the
document behind it cannot be seen. -/
def obscured (document : BaselineDocument) : Workspace :=
  ⟨⟨[(["x"], .directory), (["x", "d.json"], fileOf document)]⟩, []⟩

theorem read_obscured (document : BaselineDocument) :
    roundabout.read (obscured document) = .ok none := by
  rfl

theorem roundabout_opens (document : BaselineDocument) :
    roundabout.Opens (obscured document)
      ⟨⟨[(["x"], .directory), (["x", "d.json"], fileOf document), (["m"], .directory)]⟩, []⟩
        (.present ["x", "d.json"] (fileOf document)) :=
  ⟨by rfl, by rfl, by rfl, nofun⟩

/-- A save makes the missing directory, and puts its baseline into the document behind it. -/
theorem exists_roundabout_save (readsBack : document.ReadsBack) (added : baseline.ReadsBack) :
    ∃ w', roundabout.Saves (obscured document) [baseline] w' ∧
      roundabout.read w' = .ok (some (document.insert baseline)) := by
  have calm : Calm Faults.none := fun _ _ => rfl
  obtain ⟨saved, _⟩ := (roundabout_opens document).save calm baseline
  have keeps : roundabout.Keeps _ ["x", "d.json"] (document.render ++ "\n").toUTF8 :=
    (roundabout_opens document).located
  have old := readable_of_read (keeps.read_document readsBack)
  have holds := (roundabout_opens document).holds keeps.apart calm rfl (old.symm ▸ readsBack) added
  rw [old] at holds
  exact ⟨_, .save rfl saved (.done _), holds.read⟩

/-! ## The document after a history -/

/-- After any history of saves the document holds the last baseline of every key that was saved,
and for all other keys what it held before; a baseline that was saved under a key is found under
it; the last save changes no entry but that of its own key; and saves under different keys may
trade places, with the same workspace in the end. -/
theorem document_of_saves (settled : store.Settled w) (old : (store.readable w).ReadsBack)
    (added : ∀ baseline ∈ baselines, baseline.ReadsBack) (nonempty : baselines ≠ [])
    (saves : store.Saves w baselines w') :
    (∃ document, store.read w' = .ok (some document) ∧
      ∀ key, document.baselines.find? key =
        (Baseline.lastOf? baselines key).or ((store.readable w).baselines.find? key)) ∧
    (∀ key baseline, key ≠ "" → Baseline.lastOf? baselines key = some baseline →
      store.load? w' key = some baseline) ∧
    (∀ before last middle, baselines = before ++ [last] → store.Saves w before middle →
      ∀ key, key ≠ last.key →
        (store.readable w').baselines.find? key = (store.readable middle).baselines.find? key) ∧
    (∀ before first second after, baselines = before ++ first :: second :: after →
      first.key ≠ second.key →
        ∀ w'', store.Saves w (before ++ second :: first :: after) w'' ↔ w'' = w') := by
  obtain ⟨base, place, _, _, _, holds⟩ := settled.saves old added nonempty saves
  have found := BaselineDocument.find?_insertAll (store.readable w) baselines
  refine ⟨⟨_, holds.read, found⟩, ?_, ?_, ?_⟩
  · intro key baseline someKey last
    have kept := found key
    rw [last, Option.some_or] at kept
    simp only [load?, holds.read]
    exact BaselineDocument.select?_of_find? someKey kept
  · rintro before last middle rfl savesBefore key other
    have addedBefore : ∀ baseline ∈ before, baseline.ReadsBack :=
      fun baseline member => added baseline (List.mem_append_left _ member)
    rw [saves.readable_eq settled old added, savesBefore.readable_eq settled old addedBefore,
      BaselineDocument.insertAll_append]
    exact SortedMap.find?_insert_other _ _ other
  · rintro before first second after rfl different w''
    exact saves.swap_iff settled old added different

theorem load_first_of_plain_saves :
    ∃ w', plain.Saves ⟨.empty, []⟩
        [measured "a" "2025-01-31T12:00:00Z", measured "b" "2025-02-01T12:00:00Z"] w' ∧
      plain.load? w' "a" = some (measured "a" "2025-01-31T12:00:00Z") := by
  have added : ∀ baseline ∈ [measured "a" "2025-01-31T12:00:00Z",
      measured "b" "2025-02-01T12:00:00Z"], baseline.ReadsBack := by
    simp [readsBack_measured]
  obtain ⟨w', saves⟩ := exists_plain_saves added
  have result := document_of_saves plain_settled
    (readable_plain ▸ BaselineDocument.readsBack_empty) added (by simp) saves
  exact ⟨w', saves, result.2.1 "a" _ (by decide) (by rfl)⟩

/-- A document that could not be read before the first save may be there after it. -/
theorem save_reveals_obscured_baseline :
    roundabout.read (obscured (.insert .empty { hardwareFingerprint := "k" })) = .ok none ∧
      ∃ w' document,
        roundabout.Saves (obscured (.insert .empty { hardwareFingerprint := "k" }))
          [{ hardwareFingerprint := "a" }] w' ∧
        roundabout.read w' = .ok (some document) ∧
          ¬ ∀ key, document.baselines.find? key =
            (Baseline.lastOf? [{ hardwareFingerprint := "a" }] key).or
              (BaselineDocument.empty.baselines.find? key) := by
  obtain ⟨w', saves, found⟩ := exists_roundabout_save
    (BaselineDocument.readsBack_empty.insert
      (by decide +kernel : Baseline.ReadsBack { hardwareFingerprint := "k" }))
    (by decide +kernel : Baseline.ReadsBack { hardwareFingerprint := "a" })
  refine ⟨read_obscured _, w', _, saves, found, fun same => ?_⟩
  exact nomatch (show some _ = none from same "k")

end BaselineStore

end EnergyAudit
