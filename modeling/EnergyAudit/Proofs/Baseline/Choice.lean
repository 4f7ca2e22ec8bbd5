import EnergyAudit.Proofs.Baseline.History
import EnergyAudit.Proofs.Text.Order

/-! # The baseline that is chosen

After a history of saves each baseline stands under its own key.  So the document has a baseline for
a fingerprint exactly if one with that fingerprint was saved, and it is the last such one.  Otherwise
the baseline with the latest timestamp is chosen, which has some other fingerprint. -/

namespace EnergyAudit

namespace Baseline

/-- The last of the baselines that have the fingerprint. -/
def lastOn? (baselines : List Baseline) (fingerprint : String) : Option Baseline :=
  (baselines.filter (·.hardwareFingerprint == fingerprint)).getLast?

/-- A text that a baseline can have for its fingerprint and is not taken for lack of one. -/
structure IsFingerprint (text : String) : Prop where
  nonempty : text ≠ ""
  special : text ≠ defaultKey

variable {baseline : Baseline} {baselines : List Baseline} {fingerprint : String}

theorem IsFingerprint.key_eq_iff (proper : IsFingerprint fingerprint) :
    baseline.key = fingerprint ↔ baseline.hardwareFingerprint = fingerprint := by
  unfold key
  by_cases missing : baseline.hardwareFingerprint = ""
  · rw [if_pos (by simp [missing])]
    constructor
    · exact fun same => absurd same.symm proper.special
    · exact fun same => absurd (same.symm.trans missing) proper.nonempty
  · rw [if_neg (by simp [missing])]

/-- Baselines that are kept under a fingerprint are those that have it. -/
theorem IsFingerprint.lastOf?_eq (proper : IsFingerprint fingerprint) (baselines : List Baseline) :
    lastOf? baselines fingerprint = lastOn? baselines fingerprint := by
  unfold lastOf? lastOn?
  congr 1
  apply List.filter_congr
  intro baseline _
  rw [Bool.eq_iff_iff, beq_iff_eq, beq_iff_eq]
  exact proper.key_eq_iff

theorem mem_of_lastOf? {key : String} (last : lastOf? baselines key = some baseline) :
    baseline ∈ baselines ∧ baseline.key = key := by
  have member := List.mem_of_getLast? last
  rw [List.mem_filter, beq_iff_eq] at member
  exact member

theorem exists_lastOf? (member : baseline ∈ baselines) :
    ∃ last, lastOf? baselines baseline.key = some last := by
  have listed : baseline ∈ baselines.filter (·.key == baseline.key) :=
    List.mem_filter.mpr ⟨member, beq_self_eq_true _⟩
  exact ⟨_, List.getLast?_eq_some_getLast (List.ne_nil_of_mem listed)⟩

theorem lastOn?_eq_none :
    lastOn? baselines fingerprint = none ↔
      ∀ baseline ∈ baselines, baseline.hardwareFingerprint ≠ fingerprint := by
  simp [lastOn?]

end Baseline

namespace BaselineDocument

/-- Whether an entry gives way to another: that one has a timestamp with greater bytes, or the same
one and a key with no greater bytes. -/
def Yields (entry other : String × Baseline) : Prop :=
  Text.bytes entry.2.timestamp < Text.bytes other.2.timestamp ∨
    entry.2.timestamp = other.2.timestamp ∧ Text.bytes other.1 ≤ Text.bytes entry.1

theorem yields_iff (entry other : String × Baseline) :
    Yields entry other ↔ entry.2.timestamp < other.2.timestamp ∨
      entry.2.timestamp = other.2.timestamp ∧ other.1 ≤ entry.1 := by
  rw [Yields, Text.bytes_lt_bytes_iff, Text.bytes_le_bytes_iff]

theorem Yields.refl (entry : String × Baseline) : Yields entry entry :=
  (yields_iff entry entry).mpr (.inr ⟨rfl, String.le_refl entry.1⟩)

theorem Yields.trans {a b c : String × Baseline} (first : Yields a b) (second : Yields b c) :
    Yields a c := by
  rw [yields_iff] at first second ⊢
  rcases first with less | ⟨same, below⟩
  · rcases second with less' | ⟨same', _⟩
    · exact .inl (String.lt_trans less less')
    · exact .inl (same' ▸ less)
  · rcases second with less' | ⟨same', below'⟩
    · exact .inl (same ▸ less')
    · exact .inr ⟨same.trans same', String.le_trans below' below⟩

theorem yields_laterEntry {a b : String × Baseline} (ascending : a.1 < b.1) :
    Yields a (laterEntry a b) ∧ Yields b (laterEntry a b) ∧
      (laterEntry a b = a ∨ laterEntry a b = b) := by
  unfold laterEntry
  split
  case isTrue less => exact ⟨(yields_iff a b).mpr (.inl less), .refl b, .inr rfl⟩
  case isFalse notLess =>
    refine ⟨.refl a, (yields_iff b a).mpr ?_, .inl rfl⟩
    by_cases same : a.2.timestamp = b.2.timestamp
    · exact .inr ⟨same.symm, String.not_lt.mp (String.lt_asymm ascending)⟩
    · exact .inl (lt_of_not_lt notLess same)

/-- Going through entries in the order of their keys ends at one that all others give way to. -/
theorem yields_foldl {entry : String × Baseline} {rest : List (String × Baseline)}
    (ascending : (entry :: rest).Pairwise (fun a b => a.1 < b.1)) :
    rest.foldl laterEntry entry ∈ entry :: rest ∧
      ∀ other ∈ entry :: rest, Yields other (rest.foldl laterEntry entry) := by
  induction rest generalizing entry with
  | nil =>
      refine ⟨List.mem_cons_self, fun other member => ?_⟩
      rw [List.mem_singleton.mp member]
      exact .refl entry
  | cons next rest ih =>
      obtain ⟨below, tail⟩ := List.pairwise_cons.mp ascending
      obtain ⟨old, new, either⟩ := yields_laterEntry (below next List.mem_cons_self)
      have later : (laterEntry entry next :: rest).Pairwise (fun a b => a.1 < b.1) := by
        rcases either with same | same
        · rw [same]
          exact List.pairwise_cons.mpr
            ⟨fun other member => below other (List.mem_cons_of_mem _ member), tail.of_cons⟩
        · rw [same]
          exact tail
      obtain ⟨member, greatest⟩ := ih later
      have start := greatest (laterEntry entry next) List.mem_cons_self
      rw [List.foldl_cons]
      constructor
      · rcases List.mem_cons.mp member with same | further
        · rcases either with first | second
          · exact List.mem_cons.mpr (.inl (same.trans first))
          · exact List.mem_cons_of_mem _ (List.mem_cons.mpr (.inl (same.trans second)))
        · exact List.mem_cons_of_mem _ (List.mem_cons_of_mem _ further)
      · intro other listed
        rcases List.mem_cons.mp listed with rfl | listed
        · exact old.trans start
        · rcases List.mem_cons.mp listed with rfl | listed
          · exact new.trans start
          · exact greatest other (List.mem_cons_of_mem _ listed)

/-- The baseline has the latest timestamp of the document, and the smallest key where others have
the same one. -/
structure IsLatest (document : BaselineDocument) (key : String) (baseline : Baseline) : Prop where
  found : document.baselines.find? key = some baseline
  latest : ∀ other earlier, document.baselines.find? other = some earlier →
    Yields (other, earlier) (key, baseline)

theorem exists_isLatest {document : BaselineDocument} (nonempty : document.baselines.entries ≠ []) :
    ∃ key baseline, document.latest? = some (key, baseline) ∧ document.IsLatest key baseline := by
  have ascending := document.baselines.ascending
  cases entries : document.baselines.entries with
  | nil => exact absurd entries nonempty
  | cons entry rest =>
      rw [entries] at ascending
      obtain ⟨member, greatest⟩ := yields_foldl ascending
      refine ⟨(rest.foldl laterEntry entry).1, (rest.foldl laterEntry entry).2, ?_, ?_, ?_⟩
      · simp only [latest?, entries]
      · exact SortedMap.find?_of_mem_entries (entries ▸ member)
      · intro other earlier found
        exact greatest _ (entries ▸ SortedMap.mem_entries_of_find? found)

variable {document : BaselineDocument} {baseline : Baseline} {fingerprint : String}

theorem exists_select? (missing : document.baselines.find? fingerprint = none)
    (nonempty : document.baselines.entries ≠ []) :
    ∃ key baseline, document.select? fingerprint = some baseline ∧
      document.IsLatest key baseline := by
  obtain ⟨key, baseline, latest, isLatest⟩ := exists_isLatest nonempty
  refine ⟨key, baseline, ?_, isLatest⟩
  simp [select?, missing, latest]

theorem exists_find?_of_select? (selected : document.select? fingerprint = some baseline) :
    ∃ key, document.baselines.find? key = some baseline := by
  by_cases filled : document.baselines.entries = []
  · have nothing : document.baselines.find? fingerprint = none := by simp [SortedMap.find?, filled]
    simp [select?, latest?, nothing, filled] at selected
  · cases missing : document.baselines.find? fingerprint with
    | none =>
        obtain ⟨key, latest, chosen, isLatest⟩ := exists_select? missing filled
        rw [selected] at chosen
        exact ⟨key, chosen ▸ isLatest.found⟩
    | some kept =>
        by_cases blank : fingerprint = ""
        · obtain ⟨key, latest, chosen, isLatest⟩ := exists_isLatest filled
          simp [select?, blank, chosen] at selected
          exact ⟨key, selected ▸ isLatest.found⟩
        · rw [select?_of_find? blank missing] at selected
          exact ⟨fingerprint, selected ▸ missing⟩

theorem select?_empty (fingerprint : String) : empty.select? fingerprint = none := by
  simp only [select?, empty, SortedMap.find?_empty, ite_self]
  rfl

theorem select?_insert_empty (baseline : Baseline) (fingerprint : String) :
    (empty.insert baseline).select? fingerprint = some baseline := by
  have entries : (empty.insert baseline).baselines.entries = [(baseline.key, baseline)] := rfl
  simp only [select?, latest?, SortedMap.find?, entries, List.foldl_nil, Option.map_some]
  split
  · rfl
  · cases same : baseline.key == fingerprint with
    | true => simp [same]
    | false => simp [same]

end BaselineDocument

namespace BaselineStore

/-- The baselines that a store starts with: none where its document is missing or cannot be read,
and the one of a document that is a single record. -/
inductive StartsWith (store : BaselineStore) (w : Workspace) : List Baseline → Prop
  | missing (absent : store.read w = .ok none) : StartsWith store w []
  | unreadable {e : StoreError} (failed : store.read w = .error e) : StartsWith store w []
  | record {content : ByteArray} {text : String} {members : List (String × Json)}
      {baseline : Baseline} (found : w.read store.path = .ok content)
      (decoded : Text.decode? content = some text)
      (object : Json.parseMerged? text = some (.obj members))
      (single : Json.member? members "baselines" = none)
      (holds : Baseline.ofJson? (.obj members) = some baseline) : StartsWith store w [baseline]

variable {store : BaselineStore} {w w' : Workspace} {old baselines : List Baseline}
  {fingerprint : String}

theorem StartsWith.readable (starts : store.StartsWith w old) :
    store.readable w = BaselineDocument.empty.insertAll old := by
  cases starts with
  | missing absent =>
      rw [BaselineStore.readable, absent]
      rfl
  | unreadable failed =>
      rw [BaselineStore.readable, failed]
      rfl
  | @record _ text _ baseline found decoded object single holds =>
      have parsed : BaselineDocument.parse text = .ok (.insert .empty baseline) := by
        simp only [BaselineDocument.parse, object, BaselineDocument.ofMembers, single, holds]
      simp only [BaselineStore.readable, BaselineStore.read, found, decoded, parsed]
      rfl

theorem load?_eq (store : BaselineStore) (w : Workspace) (fingerprint : String) :
    store.load? w fingerprint = (store.readable w).select? fingerprint := by
  unfold load? BaselineStore.readable
  cases store.read w with
  | error e => exact (BaselineDocument.select?_empty fingerprint).symm
  | ok document =>
      cases document with
      | none => exact (BaselineDocument.select?_empty fingerprint).symm
      | some document => rfl

/-- What the document holds is what was put into it since the start. -/
theorem Saves.readable_of_startsWith (settled : store.Settled w)
    (starts : store.StartsWith w old) (kept : ∀ baseline ∈ old, baseline.ReadsBack)
    (added : ∀ baseline ∈ baselines, baseline.ReadsBack) (saves : store.Saves w baselines w') :
    store.readable w' = BaselineDocument.empty.insertAll (old ++ baselines) := by
  have start : (store.readable w).ReadsBack :=
    starts.readable ▸ BaselineDocument.readsBack_empty.insertAll kept
  rw [saves.readable_eq settled start added, starts.readable, BaselineDocument.insertAll_append]

/-- A baseline that is saved where nothing was is the one to load, whatever is looked for. -/
theorem exists_plain_load {baseline : Baseline} (reads : baseline.ReadsBack) :
    ∃ w', plain.Saves ⟨.empty, []⟩ [baseline] w' ∧
      ∀ fingerprint, plain.load? w' fingerprint = some baseline := by
  have added : ∀ saved ∈ [baseline], saved.ReadsBack := List.forall_mem_singleton.mpr reads
  obtain ⟨w', saves⟩ := exists_plain_saves added
  have held : plain.readable w' = BaselineDocument.empty.insert baseline :=
    saves.readable_of_startsWith plain_settled (.missing (by rfl)) (List.forall_mem_nil _) added
  refine ⟨w', saves, fun fingerprint => ?_⟩
  rw [load?_eq, held, BaselineDocument.select?_insert_empty]

end BaselineStore

namespace BaselineDocument

variable {history : List Baseline} {fingerprint : String} {baseline : Baseline}

theorem find?_history (history : List Baseline) (key : String) :
    (empty.insertAll history).baselines.find? key = Baseline.lastOf? history key := by
  rw [find?_insertAll]
  exact Option.or_none

/-- Each baseline stands under its own key. -/
theorem mem_of_find?_history {key : String}
    (found : (empty.insertAll history).baselines.find? key = some baseline) :
    baseline ∈ history ∧ baseline.key = key :=
  Baseline.mem_of_lastOf? (find?_history history key ▸ found)

theorem select?_history (proper : Baseline.IsFingerprint fingerprint)
    (last : Baseline.lastOn? history fingerprint = some baseline) :
    (empty.insertAll history).select? fingerprint = some baseline := by
  apply select?_of_find? proper.nonempty
  rw [find?_history, proper.lastOf?_eq, last]

theorem exists_select?_history (proper : Baseline.IsFingerprint fingerprint)
    (others : ∀ baseline ∈ history, baseline.hardwareFingerprint ≠ fingerprint)
    (nonempty : history ≠ []) :
    ∃ key baseline, (empty.insertAll history).select? fingerprint = some baseline ∧
      (empty.insertAll history).IsLatest key baseline ∧
        baseline.hardwareFingerprint ≠ fingerprint := by
  have missing : (empty.insertAll history).baselines.find? fingerprint = none := by
    rw [find?_history, proper.lastOf?_eq]
    exact Baseline.lastOn?_eq_none.mpr others
  obtain ⟨baseline, member⟩ := List.exists_mem_of_ne_nil _ nonempty
  obtain ⟨last, found⟩ := Baseline.exists_lastOf? member
  rw [← find?_history] at found
  have filled := List.ne_nil_of_mem (SortedMap.mem_entries_of_find? found)
  obtain ⟨key, chosen, selected, latest⟩ := exists_select? missing filled
  exact ⟨key, chosen, selected, latest, others chosen (mem_of_find?_history latest.found).1⟩

end BaselineDocument

end EnergyAudit
