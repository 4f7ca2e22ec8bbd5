import EnergyAudit.Baseline.Document
import EnergyAudit.Files.Workspace

/-! # The store of baselines

The store keeps one document in a file.  Reading never stops a run: a document that is missing or
cannot be read counts as empty.  Saving puts a baseline into the document and writes it to a new
file beside it, which replaces the document in one step at the end, so that a save that fails leaves
the document as it was. -/

namespace EnergyAudit

/-- Why the document of a store cannot be used. -/
inductive StoreError where
  /-- Reading the file failed, or writing beside it. -/
  | access (path reason : String)
  /-- The file holds no document. -/
  | document (e : DocumentError)
  /-- The new file could not take the place of the document. -/
  | notReplaced (path reason : String)

/-- The complaint about the document. -/
def StoreError.message : StoreError → String
  | .access path reason => "Baseline I/O error at " ++ path ++ ": " ++ reason
  | .document e => "Malformed baseline document: " ++ e.reason
  | .notReplaced path reason =>
      "Failed to replace baseline document " ++ path ++ ": " ++ reason

/-- What lies behind the complaint. -/
def StoreError.causes : StoreError → List String
  | .access _ reason | .notReplaced _ reason => [reason]
  | .document .notAnObject => []
  | .document e => [e.reason]

/-- A store whose document is at the path. -/
structure BaselineStore where
  path : String

/-- The steps of a save, each of which may fail for reasons of its own. -/
inductive SaveStep where
  | makeDirectory
  | read
  | openTemporary
  | writeText
  | writeNewline
  | sync
  | replace
deriving DecidableEq, Repr

/-- Which steps fail although nothing in the workspace is in their way. -/
abbrev Faults := SaveStep → Bool

/-- No step fails by itself. -/
def Faults.none : Faults := fun _ => false

/-- What a save came to, and the workspace after each step. -/
structure SaveRun where
  result : Except StoreError String
  history : List Workspace

namespace BaselineStore

/-- Reads the document; `none` if it does not exist. -/
def read (store : BaselineStore) (w : Workspace) : Except StoreError (Option BaselineDocument) :=
  match w.read store.path with
  | .error .notFound => .ok none
  | .error e => .error (.access store.path e.display)
  | .ok content =>
      match Text.decode? content with
      | none => .error (.access store.path "stream did not contain valid UTF-8")
      | some text =>
          match BaselineDocument.parse text with
          | .ok document => .ok (some document)
          | .error e => .error (.document e)

/-- The baselines that can be read; none if that fails. -/
def readable (store : BaselineStore) (w : Workspace) : BaselineDocument :=
  match store.read w with
  | .ok (some document) => document
  | _ => .empty

/-- The baseline for the fingerprint, or else the latest one. -/
def load? (store : BaselineStore) (w : Workspace) (fingerprint : String) : Option Baseline :=
  match store.read w with
  | .ok (some document) => document.select? fingerprint
  | _ => none

def directory (store : BaselineStore) : String :=
  let parent := Path.parent store.path
  if parent == "" then "." else parent

/-- What the temporary file holds after each of the steps that fill it. -/
def fillings (text : String) : List (SaveStep × String) :=
  [(.openTemporary, ""), (.writeText, text), (.writeNewline, text ++ "\n"), (.sync, text ++ "\n")]

/-- Fills the temporary file step by step, and removes it when a step fails.  Also says whether all
steps worked. -/
def fill (faults : Faults) (w : Workspace) (temporary : Location) :
    List (SaveStep × String) → List Workspace × Bool
  | [] => ([], true)
  | (step, content) :: rest =>
      if faults step then ([w], false)
      else
        let (history, worked) := fill faults w temporary rest
        ({ w with tree := w.tree.put temporary (.file content.toUTF8) } :: history, worked)

/-- Writes the text of a document to a new file and lets it replace the old one. -/
def writeDocument (store : BaselineStore) (faults : Faults) (w : Workspace) (key text : String) :
    SaveRun :=
  match w.locate store.directory with
  | .ok (.present location .directory) =>
      let (history, worked) := fill faults w (location ++ [w.tree.freshName]) (fillings text)
      if !worked then ⟨.error (.access store.directory "write failed"), history⟩
      else if faults .replace then
        ⟨.error (.notReplaced store.path "replacement failed"), history ++ [w]⟩
      else
        match w.replaceFile store.path (text ++ "\n").toUTF8 with
        | .ok w' => ⟨.ok key, history ++ [w']⟩
        | .error e => ⟨.error (.notReplaced store.path e.display), history ++ [w]⟩
  | .ok _ => ⟨.error (.access store.directory AccessError.notDirectory.display), []⟩
  | .error e => ⟨.error (.access store.directory e.display), []⟩

/-- Puts the baseline into the document and answers with its key. -/
def save (store : BaselineStore) (faults : Faults) (w : Workspace) (baseline : Baseline) :
    SaveRun :=
  if faults .makeDirectory then
    ⟨.error (.access store.directory "directory could not be made"), [w]⟩
  else
    match w.makeDirectories store.directory with
    | (w', some e) => ⟨.error (.access store.directory e.display), [w']⟩
    | (w', none) =>
        let document := if faults .read then .empty else store.readable w'
        let run := store.writeDocument faults w' baseline.key (document.insert baseline).render
        { run with history := w' :: run.history }

end BaselineStore

/-- The workspace after the save of a workspace that was `w` before. -/
def SaveRun.final (run : SaveRun) (w : Workspace) : Workspace :=
  run.history.getLast?.getD w

end EnergyAudit
