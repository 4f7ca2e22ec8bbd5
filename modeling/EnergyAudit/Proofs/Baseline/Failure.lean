import EnergyAudit.Proofs.Baseline.Save
import EnergyAudit.Proofs.Files.Write

/-! # Saves that fail

A save changes its document in the last step only, and in one go.  Up to then it makes directories,
in which nothing stands, and fills a file of its own beside the document, which is gone if a step
fails.  Whatever happens, the path of the store holds what it held before or the whole new text. -/

namespace EnergyAudit

open Workspace

namespace BaselineStore

/-- The path of the store does not lead to where the new file is filled. -/
def IsClear (store : BaselineStore) (w : Workspace) : Prop :=
  ∀ location, w.locate store.directory = .ok (.present location .directory) →
    w.location? store.path ≠ some (location ++ [w.tree.freshName])

/-- What a workspace with its directories made goes through until the document is replaced. -/
inductive Stage (store : BaselineStore) (w : Workspace) : Workspace → Prop
  | untouched : Stage store w w
  | filling {location : Location} (content : ByteArray)
      (found : w.locate store.directory = .ok (.present location .directory)) :
      Stage store w (w.put (location ++ [w.tree.freshName]) (.file content))

/-- What the file of the document holds after a save. -/
def saved (store : BaselineStore) (faults : Faults) (w : Workspace) (baseline : Baseline) :
    ByteArray :=
  (((store.before faults w).insert baseline).render ++ "\n").toUTF8

variable {store : BaselineStore} {faults : Faults} {w w' state : Workspace} {place : Place}
  {temporary : Location} {steps : List (SaveStep × String)} {key text : String}
  {baseline : Baseline}

/-! ## The stages of a save -/

/-- A file of a fresh name hides nothing from a path that does not lead to it. -/
theorem Stage.bytes?_eq (stage : store.Stage w state) (clear : store.IsClear w) :
    store.bytes? state = store.bytes? w := by
  cases stage with
  | untouched => rfl
  | @filling location content found =>
      have vacant := Tree.entryAt?_freshName w.tree location
      have free : w.tree.FreeForFile (location ++ [w.tree.freshName]) := by
        intro entry stands
        rw [vacant] at stands
        exact nomatch stands
      have onward := Tree.locate_put_file free content w.directory true store.path
      rw [bytes?, bytes?, toOption_read, toOption_read, locate, locate, put, onward]
      cases reached : w.tree.locate w.directory true store.path with
      | error e => rfl
      | ok place =>
          refine Place.content?_written (fun same => clear location found ?_) content
          rw [location?_of_locate reached, same]

/-- A document that can be read has a name that is not fresh. -/
theorem isClear_of_bytes? {content : ByteArray} (held : store.bytes? w = some content) :
    store.IsClear w := by
  intro location _ there
  rw [bytes?, toOption_read] at held
  cases reached : w.locate store.path with
  | error e =>
      rw [reached] at held
      exact nomatch held
  | ok place =>
      rw [location?_of_locate reached, Option.some.injEq] at there
      rw [reached] at held
      rcases place with ⟨other, old | target | _⟩ | other
      · have stands : w.tree.entryAt? other = some (.file old) :=
          Tree.entryAt?_of_walk (locate_eq_ok.mp reached).2 nofun
        rw [show other = _ from there, Tree.entryAt?_freshName] at stands
        exact nomatch stands
      · exact nomatch held
      · exact nomatch held
      · exact nomatch held

theorem fill_stages (faults : Faults) (w : Workspace) (temporary : Location)
    (steps : List (SaveStep × String)) :
    ∀ state ∈ (fill faults w temporary steps).1,
      state = w ∨ ∃ content, state = w.put temporary (.file content) := by
  induction steps with
  | nil => exact nofun
  | cons first steps ih =>
      intro state member
      unfold fill at member
      split at member
      · exact .inl (List.mem_singleton.mp member)
      · rcases List.mem_cons.mp member with rfl | later
        · exact .inr ⟨_, rfl⟩
        · exact ih state later

/-- Where a step fails, the file that was filled is gone. -/
theorem getLast?_fill (failed : (fill faults w temporary steps).2 = false) :
    (fill faults w temporary steps).1.getLast? = some w := by
  induction steps with
  | nil => exact nomatch failed
  | cons first steps ih =>
      unfold fill at failed ⊢
      split at failed
      · rename_i fails
        rw [if_pos fails]
        rfl
      · rename_i works
        rw [if_neg works, List.getLast?_cons, ih failed]
        rfl

theorem writeDocument_of_missing {store : BaselineStore} {w : Workspace} (faults : Faults)
    (key text : String) (missing : ¬ w.isDirectory store.directory = true) :
    ∃ e, store.writeDocument faults w key text = ⟨.error e, []⟩ := by
  unfold writeDocument
  split
  · rename_i location found
    exact absurd (isDirectory_iff_locate.mpr ⟨location, found⟩) missing
  · exact ⟨_, rfl⟩
  · exact ⟨_, rfl⟩

/-- What the writing of a document comes to: an error and nothing left behind, or its key and the
document replaced. -/
theorem writeDocument_cases (store : BaselineStore) (faults : Faults) (w : Workspace)
    (key text : String) :
    ((∃ e, (store.writeDocument faults w key text).result = .error e) ∧
        (store.writeDocument faults w key text).final w = w ∧
        ∀ state ∈ (store.writeDocument faults w key text).history, store.Stage w state) ∨
      ∃ before after, store.writeDocument faults w key text = ⟨.ok key, before ++ [after]⟩ ∧
        ∀ state ∈ before, store.Stage w state := by
  by_cases there : w.isDirectory store.directory = true
  · obtain ⟨location, found⟩ := isDirectory_iff_locate.mp there
    rw [writeDocument_eq found]
    have last : (fill faults w (location ++ [w.tree.freshName]) (fillings text)).2 = false →
        (fill faults w (location ++ [w.tree.freshName]) (fillings text)).1.getLast? = some w :=
      getLast?_fill
    have stages : ∀ state ∈ (fill faults w (location ++ [w.tree.freshName]) (fillings text)).1,
        store.Stage w state := by
      intro state member
      rcases fill_stages _ _ _ _ state member with rfl | ⟨content, rfl⟩
      · exact .untouched
      · exact .filling content found
    generalize fill faults w (location ++ [w.tree.freshName]) (fillings text) = filled
      at last stages
    obtain ⟨history, worked⟩ := filled
    have undone : ∀ state ∈ history ++ [w], store.Stage w state := by
      intro state member
      rcases List.mem_append.mp member with early | late
      · exact stages state early
      · exact List.mem_singleton.mp late ▸ .untouched
    split
    · rename_i failed
      exact .inl ⟨⟨_, rfl⟩, by simp [SaveRun.final, last (by simpa using failed)], stages⟩
    · split
      · exact .inl ⟨⟨_, rfl⟩, by simp [SaveRun.final], undone⟩
      · split
        · exact .inr ⟨_, _, rfl, stages⟩
        · exact .inl ⟨⟨_, rfl⟩, by simp [SaveRun.final], undone⟩
  · obtain ⟨e, failed⟩ := writeDocument_of_missing faults key text there
    rw [failed]
    exact .inl ⟨⟨e, rfl⟩, rfl, List.forall_mem_nil _⟩

/-- What a save leaves behind that fails: the directories, if they could be made. -/
def withDirectories (store : BaselineStore) (faults : Faults) (w : Workspace) : Workspace :=
  if faults .makeDirectory then w else (w.makeDirectories store.directory).1

/-- What a save comes to: an error that leaves at most new directories behind, or the key and the
document replaced in the last step. -/
theorem save_cases (store : BaselineStore) (faults : Faults) (w : Workspace)
    (baseline : Baseline) :
    ((∃ e, (store.save faults w baseline).result = .error e) ∧
        (store.save faults w baseline).final w = store.withDirectories faults w ∧
        ∀ state ∈ (store.save faults w baseline).history,
          state = w ∨ store.Stage (w.makeDirectories store.directory).1 state) ∨
      ∃ before after, store.save faults w baseline = ⟨.ok baseline.key, before ++ [after]⟩ ∧
        ∀ state ∈ before, store.Stage (w.makeDirectories store.directory).1 state := by
  unfold BaselineStore.save withDirectories
  split
  · exact .inl ⟨⟨_, rfl⟩, rfl, fun state member => .inl (List.mem_singleton.mp member)⟩
  · cases w.makeDirectories store.directory with
    | mk w' failure =>
        cases failure with
        | some e =>
            refine .inl ⟨⟨_, rfl⟩, rfl, fun state member => .inr ?_⟩
            exact List.mem_singleton.mp member ▸ .untouched
        | none =>
            dsimp only
            rw [← before]
            rcases writeDocument_cases store faults w' baseline.key
                ((store.before faults w').insert baseline).render with
              ⟨failed, last, stages⟩ | ⟨before, after, worked, stages⟩
            · refine .inl ⟨failed, ?_, fun state member => .inr ?_⟩
              · rw [SaveRun.final] at last ⊢
                rw [List.getLast?_cons, Option.getD_some, last]
              · rcases List.mem_cons.mp member with rfl | later
                · exact .untouched
                · exact stages state later
            · rw [worked]
              refine .inr ⟨w' :: before, after, rfl, fun state member => ?_⟩
              rcases List.mem_cons.mp member with rfl | later
              · exact .untouched
              · exact stages state later

/-! ## All or nothing -/

theorem bytes?_makeDirectories (proper : w.tree.Proper)
    (down : ".." ∉ Path.pieces store.path ∨ w.isDirectory store.directory = true) :
    store.bytes? (w.makeDirectories store.directory).1 = store.bytes? w := by
  have all := bytes?_makeAlong proper down (pathStarts store.directory).length
  rwa [List.take_length] at all

/-- A save that worked has put the new text where the path leads, if its directory is still
there. -/
theorem bytes?_of_save (proper : w.tree.Proper)
    (down : ".." ∉ Path.pieces store.path ∨ w.isDirectory store.directory = true)
    (worked : (store.save faults w baseline).result = .ok key) :
    key = baseline.key ∧
      (store.bytes? ((store.save faults w baseline).final w) =
          some (store.saved faults w baseline) ↔
        ((store.save faults w baseline).final w).isDirectory store.directory = true) ∧
      (store.Apart (w.makeDirectories store.directory).1 →
        ((store.save faults w baseline).final w).isDirectory store.directory = true) := by
  obtain ⟨same, calm, w', place, opens⟩ := exists_opens_of_save worked
  have made := bytes?_makeDirectories proper down
  rw [opens.made] at made ⊢
  have start : store.before faults w' = store.before faults w := by
    rw [before, before, readable_congr made]
  have directory {state : Workspace} {content : ByteArray}
      (held : state.read store.path = .ok content) : state.isDirectory store.directory = true := by
    obtain ⟨location, _, leads, _⟩ := exists_leadsTo_of_read held
    exact isDirectory_iff.mpr ⟨(isDirectory_iff.mp opens.directory).1, location, leads⟩
  rw [(opens.save calm baseline).2, start]
  refine ⟨same, ⟨fun held => directory (bytes?_eq_some_iff.mp held), fun there => ?_⟩, ?_⟩
  · exact bytes?_eq_some_iff.mpr (opens.keeps_of_isDirectory there).read
  · exact fun apart => directory (opens.keeps apart _).read

/-- A save works if no step of it fails, but for the reading of the old document, and only then.  If
it fails, the path of the store holds what it held, and nothing but directories is left behind.  If
it works, the path holds the whole new text as long as its directory is still there, which the
document may only have spoiled by taking the place of a link.  Up to the end the path holds what it
held, also while the directories are made. -/
theorem save_all_or_nothing (proper : w.tree.Proper)
    (down : ".." ∉ Path.pieces store.path ∨ w.isDirectory store.directory = true)
    (clear : store.IsClear (w.makeDirectories store.directory).1) (faults : Faults)
    (baseline : Baseline) :
    ((∃ key, (store.save faults w baseline).result = .ok key) ↔
        (∀ step, step ≠ .read → faults step = false) ∧ ∃ w' place, store.Opens w w' place) ∧
      (∀ e, (store.save faults w baseline).result = .error e →
        (store.save faults w baseline).final w = store.withDirectories faults w ∧
          store.bytes? ((store.save faults w baseline).final w) = store.bytes? w) ∧
      (∀ key, (store.save faults w baseline).result = .ok key → key = baseline.key ∧
        (store.bytes? ((store.save faults w baseline).final w) =
            some (store.saved faults w baseline) ↔
          ((store.save faults w baseline).final w).isDirectory store.directory = true) ∧
        (store.Apart (w.makeDirectories store.directory).1 →
          ((store.save faults w baseline).final w).isDirectory store.directory = true)) ∧
      (∀ state ∈ (store.save faults w baseline).history, store.bytes? state = store.bytes? w ∨
        state = (store.save faults w baseline).final w ∧
          ∃ key, (store.save faults w baseline).result = .ok key) ∧
      ∀ count, store.bytes? (w.makeAlong ((pathStarts store.directory).take count).reverse).1 =
        store.bytes? w := by
  have made := bytes?_makeDirectories proper down
  have staged (state : Workspace)
      (stage : store.Stage (w.makeDirectories store.directory).1 state) :
      store.bytes? state = store.bytes? w := (stage.bytes?_eq clear).trans made
  refine ⟨⟨?_, ?_⟩, ?_, fun key => bytes?_of_save proper down, ?_, bytes?_makeAlong proper down⟩
  · rintro ⟨key, worked⟩
    exact (exists_opens_of_save worked).2
  · rintro ⟨calm, w', place, opens⟩
    exact ⟨_, (opens.save calm baseline).1⟩
  · intro e failed
    rcases save_cases store faults w baseline with ⟨-, last, -⟩ | ⟨before, after, worked, -⟩
    · refine ⟨last, ?_⟩
      rw [last, withDirectories]
      split
      · rfl
      · exact made
    · rw [worked] at failed
      exact nomatch failed
  · intro state member
    rcases save_cases store faults w baseline with ⟨-, -, stages⟩ | ⟨before, after, worked, stages⟩
    · rcases stages state member with rfl | stage
      · exact .inl rfl
      · exact .inl (staged state stage)
    · rw [worked] at member ⊢
      rcases List.mem_append.mp member with early | late
      · exact .inl (staged state (stages state early))
      · refine .inr ⟨?_, baseline.key, rfl⟩
        rw [List.mem_singleton.mp late, SaveRun.final, List.getLast?_concat]
        rfl

/-- A store in a directory of its own. -/
def apartStore : BaselineStore := ⟨"d/b"⟩

/-- The directory, with a file that holds no document. -/
def spoiled : Workspace where
  tree := ⟨[(["d"], .directory), (["d", "b"], .file "none".toUTF8)]⟩
  directory := []

theorem proper_spoiled : spoiled.tree.Proper := by
  intro location name entry found
  obtain ⟨stored, member, there⟩ := Tree.exists_stored_of_entryAt? found (by simp)
  simp only [spoiled, List.mem_cons, List.not_mem_nil, or_false] at member
  rcases member with rfl | rfl
  · have whole : [] ++ ["d"] = location ++ [name] := there
    exact (List.append_inj' whole rfl).1 ▸ rfl
  · have whole : ["d"] ++ ["b"] = location ++ [name] := there
    exact (List.append_inj' whole rfl).1 ▸ rfl

/-- Where the new file cannot be brought to disk, the document is as it was; otherwise it is new. -/
theorem save_all_or_nothing_of_spoiled :
    spoiled.tree.Proper ∧
    (".." ∉ Path.pieces apartStore.path ∨ spoiled.isDirectory apartStore.directory = true) ∧
    apartStore.IsClear (spoiled.makeDirectories apartStore.directory).1 ∧
    (∃ e, (apartStore.save (· == .sync) spoiled {}).result = .error e ∧
      apartStore.bytes? ((apartStore.save (· == .sync) spoiled {}).final spoiled) =
        some "none".toUTF8) ∧
    (apartStore.save Faults.none spoiled {}).result = .ok (Baseline.key {}) ∧
      apartStore.bytes? ((apartStore.save Faults.none spoiled {}).final spoiled) =
        some (apartStore.saved Faults.none spoiled {}) := by
  have down : ".." ∉ Path.pieces apartStore.path ∨
      spoiled.isDirectory apartStore.directory = true := .inr (by rfl)
  have old : apartStore.bytes? spoiled = some "none".toUTF8 := by rfl
  have opens : apartStore.Opens spoiled spoiled (.present ["d", "b"] (.file "none".toUTF8)) :=
    ⟨by rfl, by rfl, by rfl, nofun⟩
  have clear : apartStore.IsClear (spoiled.makeDirectories apartStore.directory).1 :=
    opens.made ▸ isClear_of_bytes? old
  obtain ⟨works, fails, -⟩ := save_all_or_nothing proper_spoiled down clear (· == .sync) {}
  obtain ⟨works', -, saves, -⟩ := save_all_or_nothing proper_spoiled down clear Faults.none {}
  refine ⟨proper_spoiled, down, clear, ?_, ?_⟩
  · cases result : (apartStore.save (· == .sync) spoiled {}).result with
    | error e => exact ⟨e, rfl, (fails e result).2.trans old⟩
    | ok key => exact nomatch (works.mp ⟨key, result⟩).1 .sync (by decide)
  · obtain ⟨key, result⟩ := works'.mpr ⟨fun _ _ => rfl, _, _, opens⟩
    obtain ⟨rfl, whole, there⟩ := saves key result
    have apart : apartStore.Apart spoiled := Keeps.apart opens.located
    exact ⟨result, whole.mpr (there (opens.made ▸ apart))⟩

/-- A store whose document is a link that its own directory is reached through. -/
def throughItself : BaselineStore := ⟨"x/x"⟩

/-- The workspace with the link. -/
def linkToItself : Workspace := ⟨⟨[(["x"], .link ".")]⟩, []⟩

/-- A store whose path goes through a directory that is missing, and back. -/
def detour : BaselineStore := ⟨"m/../d"⟩

/-- The workspace with a file that the path would lead to. -/
def behindDetour : Workspace := ⟨⟨[(["d"], .file "old".toUTF8)]⟩, []⟩

/-- A save that works may take away a link, and with it the way to the new text.  A save that fails
may have made a directory that leads to another document. -/
theorem saves_that_spoil_the_path :
    ((throughItself.save Faults.none linkToItself { hardwareFingerprint := "a" }).result =
        .ok "a" ∧
      throughItself.bytes? ((throughItself.save Faults.none linkToItself
        { hardwareFingerprint := "a" }).final linkToItself) = none) ∧
    (∃ e, (detour.save (· == .openTemporary) behindDetour {}).result = .error e) ∧
      detour.bytes? behindDetour = none ∧
      detour.bytes? ((detour.save (· == .openTemporary) behindDetour {}).final behindDetour) =
        some "old".toUTF8 := by
  have opens : throughItself.Opens linkToItself linkToItself (.present ["x"] (.link ".")) :=
    ⟨by rfl, by rfl, by rfl, nofun⟩
  have lost (content : ByteArray) :
      (linkToItself.put ["x"] (.file content)).read "x/x" = .error .notDirectory := by
    rfl
  obtain ⟨worked, last⟩ :=
    opens.save (fun _ _ => rfl : Calm Faults.none) { hardwareFingerprint := "a" }
  have unseen : behindDetour.read "m/../d" = .error .notFound := by rfl
  have made : behindDetour.makeDirectories detour.directory =
      (behindDetour.put ["m"] .directory, none) := by rfl
  have seen : (behindDetour.put ["m"] .directory).read "m/../d" = .ok "old".toUTF8 := by rfl
  have failed : ¬ ∃ key, (detour.save (· == .openTemporary) behindDetour {}).result = .ok key := by
    rintro ⟨key, worked⟩
    exact nomatch (exists_opens_of_save worked).2.1 .openTemporary (by decide)
  rcases save_cases detour (· == .openTemporary) behindDetour {} with
    ⟨error, final, -⟩ | ⟨_, _, worked, -⟩
  · have left : detour.withDirectories (· == .openTemporary) behindDetour =
        behindDetour.put ["m"] .directory := congrArg Prod.fst made
    refine ⟨⟨worked, ?_⟩, error, congrArg Except.toOption unseen, ?_⟩
    · rw [last, bytes?]
      exact congrArg Except.toOption (lost _)
    · rw [final, left, bytes?]
      exact congrArg Except.toOption seen
  · exact absurd ⟨_, congrArg SaveRun.result worked⟩ failed

end BaselineStore

end EnergyAudit
