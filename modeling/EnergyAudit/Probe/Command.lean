import EnergyAudit.Duration
import EnergyAudit.Text.Blank
import EnergyAudit.Text.Utf8

/-! # Commands with a time limit

A probe runs a program, looks every ten milliseconds whether it has ended, and takes its output for
an answer only if it ended well within the limit and printed text. -/

namespace EnergyAudit

/-- How a program ended. -/
inductive Ending where
  | exited (code : UInt8)
  /-- Ended by the signal of that number. -/
  | killed (signal : Nat)
deriving DecidableEq, Repr

/-- The names of the signals from the first one on; those behind them have none. -/
def signalNames : List String :=
  ["SIGHUP", "SIGINT", "SIGQUIT", "SIGILL", "SIGTRAP", "SIGABRT", "SIGBUS", "SIGFPE", "SIGKILL",
    "SIGUSR1", "SIGSEGV", "SIGUSR2", "SIGPIPE", "SIGALRM", "SIGTERM", "SIGSTKFLT", "SIGCHLD",
    "SIGCONT", "SIGSTOP", "SIGTSTP", "SIGTTIN", "SIGTTOU", "SIGURG", "SIGXCPU", "SIGXFSZ",
    "SIGVTALRM", "SIGPROF", "SIGWINCH", "SIGIO", "SIGPWR", "SIGSYS"]

def signalName? (signal : Nat) : Option String :=
  if signal = 0 then none else signalNames[signal - 1]?

def Ending.display : Ending → String
  | .exited code => "exit status: " ++ toString code.toNat
  | .killed signal =>
      "signal: " ++ toString signal ++ (signalName? signal).elim "" fun name => " (" ++ name ++ ")"

/-- What a program prints when it is run, how it ends, and how long it takes. -/
structure Execution where
  output : List UInt8
  ending : Ending
  time : Duration

/-- Why a program cannot be started. -/
inductive StartFailure where
  | noSuchFile
  | notPermitted
  | notDirectory
  /-- The character NUL ends a name and cannot be part of one. -/
  | containsNul
deriving DecidableEq, Repr

/-- The failure in the words of the system. -/
def StartFailure.display : StartFailure → String
  | .noSuchFile => "No such file or directory (os error 2)"
  | .notPermitted => "Permission denied (os error 13)"
  | .notDirectory => "Not a directory (os error 20)"
  | .containsNul => "nul byte found in provided data"

/-- What comes of starting a program. -/
inductive Launch where
  | refused (failure : StartFailure)
  | started (execution : Execution)
  /-- The program does not end by itself. -/
  | endless

/-- A program with its arguments. -/
structure Command where
  program : String
  arguments : List String
deriving DecidableEq, Repr

def Command.display (command : Command) : String :=
  let line := command.program ++ " " ++ " ".intercalate command.arguments
  String.ofList (Text.trim line.toList)

/-- Why a probe has no answer. -/
inductive ProbeError where
  | unavailable (command : Command) (failure : StartFailure)
  | failed (command : Command) (ending : Ending)
  | timedOut (command : Command) (limit : Duration)
  /-- What the program printed is not UTF-8. -/
  | unreadable (command : Command)

/-- The complaint about a probe. -/
def ProbeError.message : ProbeError → String
  | .unavailable command failure =>
      "Probe '" ++ command.display ++ "' unavailable: " ++ failure.display
  | .failed command ending => "Probe '" ++ command.display ++ "' exited with " ++ ending.display
  | .timedOut command limit =>
      "Probe '" ++ command.display ++ "' timed out after " ++ limit.display
  | .unreadable command => "Unparsable probe output: " ++ command.display

/-- What a probe came to, and how long that took. -/
structure ProbeRun where
  result : Except ProbeError String
  time : Duration

/-- The time between two looks at a running program. -/
def pollInterval : Duration := .ofMilliseconds 10

/-- The first look that is not earlier than the duration, counted from zero. -/
def looksUntil (d : Duration) : Nat :=
  (d.nanoseconds + (pollInterval.nanoseconds - 1)) / pollInterval.nanoseconds

/-- The answer of a program that has ended. -/
def Execution.answer (command : Command) (execution : Execution) : Except ProbeError String :=
  if execution.ending == .exited 0 then
    match Text.decode? ⟨execution.output.toArray⟩ with
    | some text => .ok text
    | none => .error (.unreadable command)
  else .error (.failed command execution.ending)

/-- Waits for a program up to the limit. -/
def Launch.await (command : Command) (limit : Duration) : Launch → ProbeRun
  | .refused failure => ⟨.error (.unavailable command failure), ⟨0⟩⟩
  | .started execution =>
      let done := looksUntil execution.time
      let last := looksUntil limit
      if done ≤ last then
        ⟨execution.answer command, ⟨done * pollInterval.nanoseconds⟩⟩
      else ⟨.error (.timedOut command limit), ⟨last * pollInterval.nanoseconds⟩⟩
  | .endless =>
      ⟨.error (.timedOut command limit), ⟨looksUntil limit * pollInterval.nanoseconds⟩⟩

end EnergyAudit
