import EnergyAudit.Audit.Discovery
import EnergyAudit.Proofs.Text.Utf8

/-! # Files under the names that are shown for them

A path that is text is shown as it is.  In a workspace all paths to files are text, so that files
that are shown alike are one file there. -/

namespace EnergyAudit

namespace RawPath

variable {path : RawPath} {text : String}

theorem text?_eq_some_iff : path.text? = some text ↔ path = .ofText text := by
  have encoded : (text.toList.flatMap String.utf8EncodeChar).toByteArray = text.toByteArray :=
    String.utf8Encode_toList
  constructor
  · intro decoded
    unfold text? Text.decode? String.fromUTF8? at decoded
    split at decoded
    · have bytes : path.bytes.toByteArray = text.toByteArray :=
        congrArg String.toByteArray (Option.some.inj decoded)
      rw [← encoded, List.toByteArray_inj] at bytes
      exact congrArg mk bytes
    · cases decoded
  · rintro rfl
    rw [text?, ofText, encoded]
    exact Text.decode?_toUTF8 text

theorem display_ofText (text : String) : (ofText text).display = text :=
  Text.decodeLossy_encode text

end RawPath

namespace Workspace

/-- The text of the file that the path leads to, where bytes that are no text are replaced. -/
def readLossy? (w : Workspace) (path : String) : Option String :=
  match w.read path with
  | .ok content => some (Text.decodeLossy content.toList)
  | .error _ => none

theorem contents_ofText (w : Workspace) (path : String) :
    w.contents (.ofText path) = (w.read path).toOption := by
  rw [contents, RawPath.text?_eq_some_iff.mpr rfl, Option.bind_some]

/-- Files of a workspace that are shown alike have the same path. -/
theorem eq_of_display_eq {w : Workspace} {path other : RawPath}
    (readable : (w.contents path).isSome) (readable' : (w.contents other).isSome)
    (same : path.display = other.display) : path = other := by
  have written {path : RawPath} (readable : (w.contents path).isSome) :
      path = .ofText path.display := by
    rw [contents, Option.isSome_bind, Option.any_eq_true] at readable
    obtain ⟨text, known, -⟩ := readable
    rw [RawPath.text?_eq_some_iff.mp known, RawPath.display_ofText]
  rw [written readable, written readable', same]

end Workspace

namespace Audit

/-- The file at the path that is written so. -/
def textFile (w : Workspace) (path : String) : SourceFile := ⟨path, w.readLossy? path⟩

theorem sourceFile_ofText (w : Workspace) (path : String) :
    sourceFile w.contents (.ofText path) = textFile w path := by
  simp only [sourceFile, textFile, Workspace.readLossy?, RawPath.display_ofText,
    Workspace.contents_ofText]
  cases w.read path <;> rfl

theorem run_eq (w : Workspace) (rules : List Rule) (paths : List String) (threshold : Severity) :
    run w rules paths threshold =
      AuditReport.ofFiles rules (paths.map (textFile w)) threshold := by
  simp only [run, ofPaths, List.map_map, Function.comp_def, sourceFile_ofText]

end Audit

end EnergyAudit
