import EnergyAudit.Settings.Conversion
import EnergyAudit.Settings.Environment
import EnergyAudit.Settings.File

/-! # Loading settings

Settings come from the defaults, a file in the working directory that may be missing, a file that is
given, and the environment, of which each wins over those before it.  They are read by the library
for configurations. -/

namespace EnergyAudit

/-- Why settings cannot be loaded. -/
inductive SettingsError where
  /-- A file is missing or malformed, or a value does not convert. -/
  | notLoaded
  /-- A key leads to an item that no list can have. -/
  | noSuchItem
  | invalid (e : Settings.Invalid)
deriving DecidableEq, Repr

/-- What is wrong, with what lies behind it, in the words of the library where it is to complain. -/
def SettingsError.complaints (library : String) : SettingsError → List String
  | .notLoaded => ["Failed to load configuration: " ++ library, library]
  | .noSuchItem => []
  | .invalid e => [e.message]

namespace Settings

/-- Path of the file in the working directory, without its extension. -/
def defaultFile : String := "ecocompute"

/-- The layers of a configuration, the first one lowest; none in place of one that is not there. -/
def layers (library : ConfigLibrary) (w : Workspace) (environment : Environment)
    (path : Option String) : List (Option (List (String × ConfigValue))) :=
  ConfigFile.optionalLayer? library w defaultFile
    :: (path.toList.map (ConfigFile.requiredLayer? library w))
      ++ [some (library.arrange environment.layer)]

/-- Lays a layer over the ones before it. -/
def addLayer (table : ConfigValue) (layer : Option (List (String × ConfigValue))) :
    Except SettingsError ConfigValue :=
  match layer with
  | none => .error .notLoaded
  | some layer =>
      match table.addLayer? layer with
      | none => .error .noSuchItem
      | some table => .ok table

/-- Loads the settings and makes sure that they make sense. -/
def load (library : ConfigLibrary) (w : Workspace) (environment : Environment)
    (path : Option String) : Except SettingsError Settings :=
  match (layers library w environment path).foldlM addLayer (.table []) with
  | .error e => .error e
  | .ok table =>
      match table.toSettings? with
      | none => .error .notLoaded
      | some settings => settings.validate.mapError .invalid

end Settings

end EnergyAudit
