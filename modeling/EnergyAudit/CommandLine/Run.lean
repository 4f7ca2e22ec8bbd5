import EnergyAudit.Baseline.Store
import EnergyAudit.Calibration.Calibrate
import EnergyAudit.Json.Printer
import EnergyAudit.Probe.Machine
import EnergyAudit.Settings
import EnergyAudit.Timestamp

/-! # Runs of a subcommand

A subcommand runs on a host: a workspace, a machine and its clock.  The run prints a report or
writes it to a file, and comes to an outcome unless something is in its way. -/

namespace EnergyAudit.CommandLine

/-- A clock, by what it shows after so many looks at it, when everything else took so long.  It is
past any time after enough looks. -/
structure Clock where
  shows : Nat → Duration → Duration
  reaches : ∀ deadline : Duration, ∃ enough, ∀ looks spent, enough ≤ looks →
    deadline.nanoseconds ≤ (shows looks spent).nanoseconds

/-- The clock that a look takes the same time at. -/
def Clock.ticking (tick : Duration) (positive : 0 < tick.nanoseconds) : Clock where
  shows looks spent := ⟨looks * tick.nanoseconds + spent.nanoseconds⟩
  reaches deadline :=
    ⟨deadline.nanoseconds, fun looks _ enough =>
      Nat.le_add_right_of_le (Nat.le_trans enough (Nat.le_mul_of_pos_right looks positive))⟩

/-- What a subcommand runs on. -/
structure Host where
  workspace : Workspace
  machine : Machine
  /-- The clock that calibration looks at. -/
  clock : Clock
  /-- Seconds since the start of 1970. -/
  seconds : Nat

/-- What a run that is not stopped comes to. -/
inductive Outcome where
  | success
  /-- There are critical findings, or the gate is not passed. -/
  | failed
deriving DecidableEq, Repr

/-- What stops a run. -/
inductive Failure where
  | invalidSettings (e : Settings.Invalid)
  | parameters (billions : Float)
  | reportNotWritten (path : String) (e : AccessError)
  | baselineNotSaved (path : String) (e : StoreError)
  /-- A time in the settings is negative or too long. -/
  | notADuration
  /-- A count, or what it changes by, does not fit 64 bits. -/
  | countOverflow

/-- The complaint about what stops a run. -/
def Failure.message : Failure → String
  | .invalidSettings e => e.message
  | .parameters billions =>
      "--params must be a positive number of billions, got " ++ Decimal.plain billions
  | .reportNotWritten path _ => "failed to write report to " ++ path
  | .baselineNotSaved path _ => "failed to save baseline to " ++ path
  | .notADuration => "a time of the calibration is no duration"
  | .countOverflow => "a count is beyond the numbers of 64 bits"

/-- What lies behind the complaint, the nearest first. -/
def Failure.causes : Failure → List String
  | .reportNotWritten _ e => [e.display]
  | .baselineNotSaved _ e => e.message :: e.causes
  | .invalidSettings _ | .parameters _ | .notADuration | .countOverflow => []

/-- Whether the run breaks off where nothing can be said any more. -/
def Failure.isFatal : Failure → Bool
  | .notADuration | .countOverflow => true
  | .invalidSettings _ | .parameters _ | .reportNotWritten .. | .baselineNotSaved .. => false

/-- What a run comes to, what it prints, and the workspace after it. -/
structure Run where
  result : Except Failure Outcome
  output : String := ""
  errors : String := ""
  workspace : Workspace

/-- The run that is stopped before it prints anything. -/
def Run.stopped (failure : Failure) (w : Workspace) : Run :=
  { result := .error failure, workspace := w }

/-- Hands over a report, to the file or in print, and comes to the outcome. -/
def Run.reporting (w : Workspace) (output : Option String) (text : String) (outcome : Outcome) :
    Run :=
  match output with
  | none => { result := .ok outcome, output := text ++ "\n", workspace := w }
  | some path =>
      match w.write path text.toUTF8 with
      | .ok w => { result := .ok outcome, workspace := w }
      | .error e => .stopped (.reportNotWritten path e) w

/-- The text of a record of several parts, in the order of their names. -/
def documentText (parts : List (String × Json)) : String :=
  (Json.obj parts).sorted.render

namespace Host

def store (host : Host) (settings : BaselineSettings) : BaselineStore :=
  ⟨settings.pathIn host.workspace.directoryPath⟩

/-- The time that is recorded with a baseline. -/
def timestamp (host : Host) : String := Timestamp.ofSeconds host.seconds

/-- How long the tools of the machine may take. -/
def limits (settings : CalibrationSettings) : ProbeLimits :=
  ⟨settings.detectTimeout, settings.probeTimeout⟩

def detection (host : Host) (settings : CalibrationSettings) : Detection :=
  (host.machine.answers (limits settings)).detect

def hardware (host : Host) (settings : CalibrationSettings) : HardwareProfile :=
  (host.detection settings).profile

/-- How far a calibration has come: how often the clock was looked at, how long everything else
took, and how many commands were started on the machine. -/
structure Moment where
  looks : Nat
  spent : Duration
  commands : Nat

/-- The moment after something that took so long. -/
def Moment.later (moment : Moment) (span : Duration) : Moment :=
  { moment with spent := ⟨moment.spent.nanoseconds + span.nanoseconds⟩ }

/-- The surroundings of a calibration.  There is no device to compute with. -/
def surroundings (host : Host) (settings : CalibrationSettings) : Surroundings Moment where
  runtime := .absent Moment
  now moment :=
    (host.clock.shows moment.looks moment.spent, { moment with looks := moment.looks + 1 })
  power moment :=
    (host.machine.power moment.commands (limits settings),
      { moment.later (host.machine.powerTime moment.commands (limits settings)) with
        commands := moment.commands + 1 })
  wait span moment := moment.later span

/-- The moment after detection, at which a calibration begins. -/
def start (host : Host) (settings : CalibrationSettings) : Moment :=
  ⟨0, ⟨0⟩, (host.detection settings).asked.length⟩

/-- The calibration of the machine, if the times in the settings are durations. -/
def calibration (host : Host) (settings : CalibrationSettings) : Option CalibrationResult :=
  (EnergyAudit.calibrate (host.surroundings settings) (host.hardware settings) settings
    (host.start settings)).map (·.result)

end Host

end EnergyAudit.CommandLine
