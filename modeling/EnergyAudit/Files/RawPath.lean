import EnergyAudit.Files.Workspace

/-! # Paths as bytes

The system takes paths whose bytes need not be text.  What is shown of such a path is text all the
same, so that two of them may be shown alike. -/

namespace EnergyAudit

/-- A path as the system takes it. -/
structure RawPath where
  bytes : List UInt8
deriving DecidableEq, Repr

namespace RawPath

/-- The path that is written as the text. -/
def ofText (path : String) : RawPath := ⟨path.toList.flatMap String.utf8EncodeChar⟩

/-- The path as text, if it is text. -/
def text? (path : RawPath) : Option String := Text.decode? path.bytes.toByteArray

/-- The path as it is shown, where bytes that are no text are replaced. -/
def display (path : RawPath) : String := Text.decodeLossy path.bytes

end RawPath

/-- What the file at a path holds, if there is one that can be read. -/
abbrev Contents := RawPath → Option ByteArray

/-- What can be read in a workspace.  All names in it are text, so that other paths lead nowhere. -/
def Workspace.contents (w : Workspace) : Contents := fun path =>
  path.text?.bind fun text => (w.read text).toOption

end EnergyAudit
