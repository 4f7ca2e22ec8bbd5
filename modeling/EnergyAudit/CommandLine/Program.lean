import EnergyAudit.CommandLine.Execute
import EnergyAudit.CommandLine.Invocation
import EnergyAudit.Settings.EnvironmentFile
import EnergyAudit.Settings.Load

/-! # The program

The program reads its command line, loads the settings and runs the subcommand.  Its exit code says
how that ended. -/

namespace EnergyAudit.CommandLine

/-- How the program ends. -/
inductive Completion where
  /-- No subcommand is run. -/
  | diverted (diversion : Diversion)
  /-- The settings cannot be loaded, and the library for configurations may have its own words. -/
  | unconfigured (e : SettingsError) (library : String)
  | ran (run : Run)
  /-- A variable in the file of the environment has a value that no environment can hold. -/
  | unusableEnvironment

/-- Runs what the arguments ask for. -/
def perform (library : ConfigLibrary) (host : Host) (environment : Environment)
    (arguments : List String) : Completion :=
  match read environment arguments with
  | .error diversion => .diverted diversion
  | .ok invocation =>
      match Settings.load library host.workspace environment invocation.config with
      | .error e =>
          .unconfigured e (library.complaint host.workspace environment invocation.config)
      | .ok settings => .ran (host.execute settings invocation.subcommand)

/-- Runs the program, with the environment that the file in the workspace adds to. -/
def program (library : ConfigLibrary) (host : Host) (environment : Environment)
    (arguments : List String) : Completion :=
  match EnvironmentFile.load host.workspace environment with
  | none => .unusableEnvironment
  | some environment => perform library host environment arguments

def Run.exitCode (run : Run) : UInt8 :=
  match run.result with
  | .ok .success => 0
  | .ok .failed => 1
  | .error failure => if failure.isFatal then 101 else 2

def usage : String :=
  "Usage: ecocompute [OPTIONS] <COMMAND>\n\nCommands: " ++ ", ".intercalate subcommandNames ++ "\n"

namespace Completion

def exitCode : Completion → UInt8
  | .diverted .rejected => 2
  | .diverted _ => 0
  | .unconfigured .noSuchItem _ => 101
  | .unconfigured .. => 2
  | .ran run => run.exitCode
  | .unusableEnvironment => 101

def output : Completion → String
  | .diverted .version => "ecocompute " ++ version ++ "\n"
  | .diverted .help => usage
  | .ran run => run.output
  | _ => ""

/-- An error with what lies behind it, on one line. -/
def errorLine (complaints : List String) : String := "Error: " ++ ": ".intercalate complaints ++ "\n"

/-- What the program prints on the side.  What is said where it breaks off is left out. -/
def errors : Completion → String
  | .diverted .rejected => usage
  | .unconfigured .noSuchItem _ => ""
  | .unconfigured e library => errorLine ("failed to load configuration" :: e.complaints library)
  | .ran run =>
      match run.result with
      | .ok _ => run.errors
      | .error failure =>
          if failure.isFatal then run.errors
          else run.errors ++ errorLine (failure.message :: failure.causes)
  | .unusableEnvironment => ""
  | .diverted _ => ""

def workspace? : Completion → Option Workspace
  | .ran run => some run.workspace
  | _ => none

end Completion

end EnergyAudit.CommandLine
