import EnergyAudit.Files.Workspace
import EnergyAudit.Json.Parser
import EnergyAudit.Json.Record
import EnergyAudit.Settings.Value
import EnergyAudit.Toml.Parser

/-! # Configuration files

Configurations are read by a library.  It knows some formats, each by the extensions of its files,
and looks for a file in all of them where a path has none: it tries each extension in turn, added to
the name at the end of the path.  Which formats it knows, the order in which it tries them, and the
order in which the entries of a source come up are its own, and left open here. -/

namespace EnergyAudit

/-- What a format makes of the content of a file. -/
inductive ConfigReading where
  /-- The content is no text. -/
  | unreadable
  | malformed
  /-- The entries of a table, in the order in which they come up. -/
  | entries (entries : List (String × ConfigValue))

def ConfigReading.entries? : ConfigReading → Option (List (String × ConfigValue))
  | .entries found => some found
  | .unreadable | .malformed => none

/-- A format of configuration files. -/
structure ConfigFormat where
  extensions : List String
  read : ByteArray → ConfigReading

namespace ConfigFormat

/-- What a format makes of a text in UTF-8 that holds a table. -/
def readText (parse? : String → Option ConfigValue) (content : ByteArray) : ConfigReading :=
  match Text.decode? content with
  | none => .unreadable
  | some text =>
      match parse? text with
      | some (.table entries) => .entries entries
      | _ => .malformed

def toml : ConfigFormat := ⟨["toml"], readText Toml.parse?⟩

def json : ConfigFormat where
  extensions := ["json"]
  read := readText fun text => (Json.parseMerged? text).map (ConfigValue.ofJson Json.doubleOfInt)

end ConfigFormat

/-- A library that reads configurations. -/
structure ConfigLibrary where
  /-- The formats, in the order in which they are tried. -/
  formats : List ConfigFormat
  /-- The entries of the environment, in the order in which they come up. -/
  arrange : List (String × ConfigValue) → List (String × ConfigValue)
  perm : ∀ entries, (arrange entries).Perm entries
  /-- What it says where it cannot read a file that is given, or convert a value. -/
  complaint : Workspace → List (String × String) → Option String → String

/-- The library with two formats, which keeps everything in the order of its text and has no words
for what it cannot load. -/
def ConfigLibrary.inOrder : ConfigLibrary where
  formats := [.toml, .json]
  arrange := id
  perm entries := .refl entries
  complaint _ _ _ := ""

namespace ConfigFile

/-- A configuration file that was found. -/
structure Found where
  path : String
  format : ConfigFormat

/-- The file of a path: the one that is there, if its extension is that of a format, and else the
first of those with an extension added. -/
def find? (library : ConfigLibrary) (w : Workspace) (path : String) : Option Found :=
  let path := w.absolute path
  if w.isFile path then
    let extension := (Path.extension? path).getD ""
    (library.formats.find? (·.extensions.contains extension)).map (Found.mk path)
  else
    (library.formats.flatMap fun format =>
      format.extensions.filterMap fun extension =>
        (Path.withExtension? path extension).map (Found.mk · format)).find?
          fun found => w.isFile found.path

def Found.reading (found : Found) (w : Workspace) : ConfigReading :=
  match w.read found.path with
  | .ok content => found.format.read content
  | .error _ => .unreadable

/-- The layer of a file that counts as empty where it cannot be read. -/
def optionalLayer? (library : ConfigLibrary) (w : Workspace) (path : String) :
    Option (List (String × ConfigValue)) :=
  match find? library w path with
  | none => some []
  | some found =>
      match found.reading w with
      | .unreadable => some []
      | reading => reading.entries?

def requiredLayer? (library : ConfigLibrary) (w : Workspace) (path : String) :
    Option (List (String × ConfigValue)) :=
  (find? library w path).bind fun found => (found.reading w).entries?

end ConfigFile

end EnergyAudit
